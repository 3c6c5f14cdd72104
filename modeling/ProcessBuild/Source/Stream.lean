/-
Parsers over token trees. A parser takes trees from the front of a stream; it enters a group as a stream of its own,
and trees that it leaves there become a fault only when everything else is read (`Stream.leftover`).
-/
import ProcessBuild.Source.Tree
import ProcessBuild.Source.SyntaxFault
import ProcessBuild.Source.Literal

namespace ProcessBuild.Source

/-- the trees still to be read, where the group around them is closed (none in a file), and the first group that was
left before all of it was read -/
structure Stream where
  rest : List Tree
  closing : Option Nat
  leftover : Option SyntaxFault

def Parser (α : Type) : Type := Stream → Except SyntaxFault (α × Stream)

namespace Parser

variable {α β : Type}

/-- take nothing -/
protected def pure (a : α) : Parser α := fun s => .ok (a, s)

/-- one parser after another -/
protected def bind (p : Parser α) (f : α → Parser β) : Parser β := fun s =>
  match p s with
  | .ok (a, s) => f a s
  | .error e => .error e

instance : Monad Parser where
  pure := Parser.pure
  bind := Parser.bind

instance : Inhabited (Parser α) := ⟨fun s => .error ⟨s.closing, true, .expected []⟩⟩

end Parser

namespace Stream

/-- where the next tree starts, or where the stream is closed -/
def place (s : Stream) : Option Nat :=
  match s.rest with
  | [] => s.closing
  | t :: _ => some t.start

/-- a complaint about the next tree, or about the end of the stream -/
def fault (s : Stream) (c : Complaint) : SyntaxFault := ⟨s.place, s.rest.isEmpty, c⟩

end Stream

/-! ## Looking at trees -/

/-- the words that are no identifiers -/
def reserved : List String := [
  "_", "abstract", "as", "async", "await", "become", "box", "break", "const", "continue", "crate", "do", "dyn", "else",
  "enum", "extern", "false", "final", "fn", "for", "if", "impl", "in", "let", "loop", "macro", "match", "mod", "move",
  "mut", "override", "priv", "pub", "ref", "return", "Self", "self", "static", "struct", "super", "trait", "true",
  "try", "type", "typeof", "unsafe", "unsized", "use", "virtual", "where", "while", "yield"]

def isFreeWord (w : String) : Bool := !reserved.contains w

/-- the trees after the punctuation characters at the front, all but the last one joined to the next -/
def dropSymbol : List Char → List Tree → Option (List Tree)
  | [], ts => some ts
  | c :: cs, .punct _ d joint :: ts => if c = d ∧ c ≠ '\'' ∧ (joint ∨ cs = []) then dropSymbol cs ts else none
  | _ :: _, _ => none

def startsWithLifetime : List Tree → Bool
  | .punct _ '\'' true :: .word _ _ :: _ => true
  | _ => false

def Expected.startsAny (e : Expected) (ts : List Tree) : Bool :=
  match e with
  | .keyword w =>
    match ts with
    | .word _ v :: _ => v == w
    | _ => false
  | .symbol text => (dropSymbol text.toList ts).isSome
  | .identifier =>
    match ts with
    | .word _ v :: _ => isFreeWord v
    | _ => false
  | .lifetime => startsWithLifetime ts
  | .literal =>
    match ts with
    | .literal _ _ :: _ => true
    | .word _ v :: _ => v == "true" || v == "false"
    | .punct _ '-' _ :: .literal _ text :: _ => Literal.isNumber text
    | _ => false
  | .string =>
    match ts with
    | .literal _ text :: _ => Literal.isString text
    | _ => false
  | .group d =>
    match ts with
    | .group _ _ d' _ :: _ => d' == d
    | _ => false

/-- the trees after the first one; a lifetime counts as one -/
def dropTree : List Tree → List Tree
  | .punct _ '\'' true :: .word _ _ :: ts => ts
  | _ :: ts => ts
  | [] => []

def kw (w : String) : Expected := .keyword w

def sym (text : String) : Expected := .symbol text

def parentheses : Expected := .group .parenthesis

def squares : Expected := .group .bracket

def curlies : Expected := .group .brace

namespace Parser

variable {α β : Type}

/-- whether what is expected comes next -/
def peek (e : Expected) : Parser Bool := fun s => .ok (e.startsAny s.rest, s)

/-- whether what is expected comes after the next tree -/
def peek2 (e : Expected) : Parser Bool := fun s => .ok (e.startsAny (dropTree s.rest), s)

/-- whether what is expected comes after the next two trees -/
def peek3 (e : Expected) : Parser Bool := fun s => .ok (e.startsAny (dropTree (dropTree s.rest)), s)

/-- whether one of the alternatives comes next -/
def peekAny (es : List Expected) : Parser Bool := fun s => .ok (es.any (·.startsAny s.rest), s)

/-- whether a symbol comes next and is not the start of a longer one -/
def peekOnly (symbol : String) (longer : List String) : Parser Bool := fun s =>
  .ok ((sym symbol).startsAny s.rest && !longer.any fun t => (sym t).startsAny s.rest, s)

/-- whether any word comes next -/
def peekWord : Parser Bool := fun s =>
  .ok (match s.rest with
    | .word _ _ :: _ => true
    | _ => false, s)

def atEnd : Parser Bool := fun s => .ok (s.rest.isEmpty, s)

def here : Parser (Option Nat) := fun s => .ok (s.place, s)

/-- one more than the number of trees that are left -/
def roundsLeft : Parser Nat := fun s => .ok (s.rest.length + 1, s)

def refuse (c : Complaint) : Parser α := fun s => .error (s.fault c)

def refuseAt (place : Option Nat) (c : Complaint) : Parser α := fun _ => .error ⟨place, false, c⟩

/-- refuse what comes next for lack of one of some alternatives -/
def expect (alternatives : List Expected) : Parser α := fun s =>
  .error (s.fault (.expected (alternatives.filter fun e => !e.startsAny s.rest)))

def keyword (w : String) : Parser Unit := fun s =>
  match s.rest with
  | .word _ v :: ts => if v = w then .ok ((), { s with rest := ts }) else .error (s.fault (.expected [kw w]))
  | _ => .error (s.fault (.expected [kw w]))

/-- take a punctuation symbol; its absence at the end of the input is told like anywhere else -/
def symbol (text : String) : Parser Unit := fun s =>
  match dropSymbol text.toList s.rest with
  | some ts => .ok ((), { s with rest := ts })
  | none => .error ⟨s.place, false, .expected [sym text]⟩

def identifier : Parser String := fun s =>
  match s.rest with
  | .word _ v :: ts =>
    if isFreeWord v then .ok (v, { s with rest := ts }) else .error (s.fault (.keywordAsIdentifier v))
  | _ => .error (s.fault (.expected [.identifier]))

def anyWord : Parser String := fun s =>
  match s.rest with
  | .word _ v :: ts => .ok (v, { s with rest := ts })
  | _ => .error (s.fault .anyIdentifier)

def lifetime : Parser Unit := fun s =>
  match s.rest with
  | .punct _ '\'' true :: .word _ _ :: ts => .ok ((), { s with rest := ts })
  | _ => .error (s.fault (.expected [.lifetime]))

/-- take a literal, which may be a word for a truth value or a negative number -/
def literal : Parser Unit := fun s =>
  match s.rest with
  | .literal _ _ :: ts => .ok ((), { s with rest := ts })
  | .word _ v :: ts =>
    if v = "true" ∨ v = "false" then .ok ((), { s with rest := ts }) else .error (s.fault (.expected [.literal]))
  | .punct _ '-' _ :: .literal _ text :: ts =>
    if Literal.isNumber text then .ok ((), { s with rest := ts }) else .error (s.fault (.expected [.literal]))
  | _ => .error (s.fault (.expected [.literal]))

/-- take a literal that stands as one token and passes a test, if it comes next -/
def literal? (test : String → Bool) : Parser (Option String) := fun s =>
  match s.rest with
  | .literal _ text :: ts => if test text then .ok (some text, { s with rest := ts }) else .ok (none, s)
  | _ => .ok (none, s)

/-- take a keyword if it comes next -/
def keyword? (w : String) : Parser Bool := fun s =>
  match s.rest with
  | .word _ v :: ts => if v = w then .ok (true, { s with rest := ts }) else .ok (false, s)
  | _ => .ok (false, s)

/-- take a punctuation symbol if it comes next -/
def symbol? (text : String) : Parser Bool := fun s =>
  match dropSymbol text.toList s.rest with
  | some ts => .ok (true, { s with rest := ts })
  | none => .ok (false, s)

/-- take a lifetime if it comes next -/
def lifetime? : Parser Bool := fun s =>
  match s.rest with
  | .punct _ '\'' true :: .word _ _ :: ts => .ok (true, { s with rest := ts })
  | _ => .ok (false, s)

def everything : Parser Unit := fun s => .ok ((), { s with rest := [] })

/-- take a group and read what is in it -/
def inside (d : Delimiter) (p : Parser α) : Parser α := fun s =>
  match s.rest with
  | .group _ closed d' inner :: ts =>
    if d' = d then
      match p ⟨inner, some closed, s.leftover⟩ with
      | .error e => .error e
      | .ok (a, t) =>
        let left := t.rest.head?.map fun x => (⟨some x.start, false, .leftover d⟩ : SyntaxFault)
        .ok (a, ⟨ts, s.closing, t.leftover.or left⟩)
    else .error (s.fault (.expected [.group d]))
  | _ => .error (s.fault (.expected [.group d]))

/-- take a group of any delimiter whole -/
def anyGroup : Parser Delimiter := fun s =>
  match s.rest with
  | .group _ _ d _ :: ts => .ok (d, { s with rest := ts })
  | _ => .error (s.fault .delimiter)

/-- read ahead: take what a parser takes, or nothing when it fails -/
def attempt (p : Parser α) : Parser (Option α) := fun s =>
  match p s with
  | .ok (a, t) => .ok (some a, t)
  | .error _ => .ok (none, s)

/-- read ahead without taking anything -/
def ahead (p : Parser α) : Parser α := fun s =>
  match p s with
  | .ok (a, _) => .ok (a, s)
  | .error e => .error e

/-! ## Loops

Each round of a loop takes a tree, so one round more than there are trees is always enough.
-/

/-- repeat a step on a value until it gives nothing, at most so many times -/
def iterateFor : Nat → (β → Parser (Option β)) → β → Parser β
  | 0, _, b => pure b
  | n + 1, step, b => do
    match ← step b with
    | some b => iterateFor n step b
    | none => pure b

/-- repeat a step on a value until it gives nothing -/
def iterate (step : β → Parser (Option β)) (b : β) : Parser β := fun s =>
  iterateFor (s.rest.length + 1) step b s

/-- collect what a step gives until it gives nothing, at most so many times -/
def collectFor : Nat → Parser (Option α) → Parser (List α)
  | 0, _ => pure []
  | n + 1, step => do
    match ← step with
    | some a => return a :: (← collectFor n step)
    | none => pure []

/-- collect what a step gives until it gives nothing -/
def collect (step : Parser (Option α)) : Parser (List α) := fun s =>
  collectFor (s.rest.length + 1) step s

/-- values to the end of the stream -/
def toEnd (p : Parser α) : Parser (List α) := collect do
  if ← atEnd then return none
  return some (← p)

def asLongAs (test : Parser Bool) (p : Parser α) : Parser (List α) := collect do
  if ← test then return some (← p) else return none

/-- values with a separator between each two, up to where a test holds; a separator may come last -/
def separatedFor : Nat → (separator : String) → (stop : Parser Bool) → Parser α → Parser (List α)
  | 0, _, _, _ => pure []
  | n + 1, separator, stop, p => do
    if ← stop then return []
    let a ← p
    if ← stop then return [a]
    symbol separator
    return a :: (← separatedFor n separator stop p)

/-- values with a separator between each two, up to where a test holds; a separator may come last -/
def separated (separator : String) (stop : Parser Bool) (p : Parser α) : Parser (List α) := fun s =>
  separatedFor (s.rest.length + 1) separator stop p s

def commaList (p : Parser α) : Parser (List α) := separated "," atEnd p

/-- values with plus signs between them, none where a test holds; a plus sign may come last -/
def plusListFor : Nat → (stop : Parser Bool) → Parser α → Parser (List α)
  | 0, _, _ => pure []
  | n + 1, stop, p => do
    if ← stop then return []
    let a ← p
    if ← symbol? "+" then return a :: (← plusListFor n stop p) else return [a]

/-- values with plus signs between them, none where a test holds; a plus sign may come last -/
def plusList (stop : Parser Bool) (p : Parser α) : Parser (List α) := fun s =>
  plusListFor (s.rest.length + 1) stop p s

end Parser
end ProcessBuild.Source
