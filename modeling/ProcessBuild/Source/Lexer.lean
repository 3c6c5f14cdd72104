/-
Reading source text as token trees. Blanks and comments separate tokens; documentation comments become the attributes
they stand for. Reading stops at the first place that starts no token, at a closing delimiter that fits no open group,
or, at the end, at the innermost group left open; the place is the error.
-/
import ProcessBuild.Source.Tree
import ProcessBuild.Source.Literal
import ProcessBuild.Text.Blank

namespace ProcessBuild.Source.Lexer

open Text Literal

/-- a character that separates tokens: a blank or one of the two direction marks -/
def isGap (c : Char) : Bool := isBlank c || c == '\u200e' || c == '\u200f'

/-- the number of characters before the end of the line -/
def lineWidth : List Char → Nat
  | [] => 0
  | '\n' :: _ => 0
  | '\r' :: '\n' :: _ => 0
  | _ :: r => lineWidth r + 1

/-- the width of a block comment, `n` characters and `depth` openings of it read -/
def blockEnd (depth n : Nat) : List Char → Option Nat
  | '/' :: '*' :: r => blockEnd (depth + 1) (n + 2) r
  | '*' :: '/' :: r => if depth ≤ 1 then some (n + 2) else blockEnd (depth - 1) (n + 2) r
  | _ :: r => blockEnd depth (n + 1) r
  | [] => none

/-- the width of a comment that documents nothing -/
def commentWidth (s : List Char) : Option Nat :=
  match s with
  | '/' :: '/' :: '!' :: _ => none
  | '/' :: '/' :: '/' :: '/' :: _ => some (lineWidth s)
  | '/' :: '/' :: '/' :: _ => none
  | '/' :: '/' :: _ => some (lineWidth s)
  | '/' :: '*' :: '*' :: '/' :: _ => some 4
  | '/' :: '*' :: '!' :: _ => none
  | '/' :: '*' :: '*' :: '*' :: _ => blockEnd 0 0 s
  | '/' :: '*' :: '*' :: _ => none
  | '/' :: '*' :: _ => blockEnd 0 0 s
  | _ => none

/-- the width of the blanks and comments at the start of a text -/
def gapWidth : Nat → List Char → Nat
  | 0, _ => 0
  | _ + 1, [] => 0
  | fuel + 1, c :: r =>
    match commentWidth (c :: r) with
    | some n => n + gapWidth fuel ((c :: r).drop n)
    | none => if isGap c then 1 + gapWidth fuel r else 0

/-! ## Documentation comments -/

/-- a documentation comment: whether it documents what it stands in, its text, its width -/
structure Doc where
  inner : Bool
  text : List Char
  width : Nat

def blockDoc (inner : Bool) (s : List Char) : Option Doc :=
  (blockEnd 0 0 s).map fun n => ⟨inner, (s.take (n - 2)).drop 3, n⟩

/-- the documentation comment at the start of a text -/
def docComment? (s : List Char) : Option Doc :=
  match s with
  | '/' :: '/' :: '!' :: r => some ⟨true, r.take (lineWidth r), lineWidth s⟩
  | '/' :: '*' :: '!' :: _ => blockDoc true s
  | '/' :: '/' :: '/' :: '/' :: _ => none
  | '/' :: '/' :: '/' :: r => some ⟨false, r.take (lineWidth r), lineWidth s⟩
  | '/' :: '*' :: '*' :: '*' :: _ => none
  | '/' :: '*' :: '*' :: _ => blockDoc false s
  | _ => none

/-- whether each carriage return is followed by a newline -/
def wholeLines : List Char → Bool
  | [] => true
  | '\r' :: '\n' :: r => wholeLines r
  | '\r' :: _ => false
  | _ :: r => wholeLines r

/-- the trees of a documentation comment, the last one first -/
def Doc.trees (d : Doc) (start : Nat) : List Tree :=
  let group := Tree.group start (start + d.width - 1) .bracket
    [.word start "doc", .punct start '=' false, .literal start (Text.literal (String.ofList d.text))]
  group :: ((if d.inner then [.punct start '!' false] else []) ++ [.punct start '#' false])

/-! ## Single tokens -/

def isPunct (c : Char) : Bool :=
  ['~', '!', '@', '#', '$', '%', '^', '&', '*', '-', '=', '+', '|', ';', ':', ',', '<', '.', '>', '/', '?',
    '\''].contains c

/-- whether a punctuation character starts a text; a slash that starts a comment is none -/
def startsPunct : List Char → Bool
  | '/' :: '/' :: _ => false
  | '/' :: '*' :: _ => false
  | c :: _ => isPunct c
  | [] => false

/-- words that cannot be written raw -/
def neverRaw : List String := ["_", "super", "self", "Self", "crate"]

/-- whether a raw word's prefix starts a text -/
def startsRaw (s : List Char) : Bool := ['r', '#'].isPrefixOf s

/-- the width of a word, which may be raw; 0 when there is none -/
def identifierWidth (s : List Char) : Nat :=
  if startsRaw s then
    let w := wordWidth (s.drop 2)
    if w = 0 ∨ neverRaw.contains (String.ofList ((s.drop 2).take w)) then 0 else 2 + w
  else wordWidth s

/-- openings of quoted literals, which are no words even when the literal is broken -/
def quotedOpenings : List (List Char) := [
  ['r', '"'], ['r', '#', '"'], ['r', '#', '#'], ['b', '"'], ['b', '\''], ['b', 'r', '"'], ['b', 'r', '#'], ['c', '"'],
  ['c', 'r', '"'], ['c', 'r', '#']]

def startsLifetime (s : List Char) : Bool :=
  match s with
  | '\'' :: r =>
    let w := identifierWidth r
    w != 0 &&
      match r.drop w with
      | '\'' :: _ => false
      | '#' :: _ => startsRaw r
      | _ => true
  | _ => false

/-- the literal that stands for an error -/
def errorLiteral : List Char := ['(', '/', '*', 'E', 'R', 'R', 'O', 'R', '*', '/', ')']

/-- the token at the start of a text and its width -/
def leaf (start : Nat) (s : List Char) : Option (Tree × Nat) :=
  match Literal.width s with
  | some n => some (.literal start (String.ofList (s.take n)), n)
  | none =>
    if startsLifetime s then some (.punct start '\'' true, 1)
    else
      match s with
      | [] => none
      | c :: r =>
        if startsPunct s && c != '\'' then some (.punct start c (startsPunct r), 1)
        else
          let w := identifierWidth s
          if w ≠ 0 ∧ !quotedOpenings.any (·.isPrefixOf s) then
            some (.word start (String.ofList (s.take w)), w)
          else if errorLiteral.isPrefixOf s then
            some (.literal start (String.ofList errorLiteral), errorLiteral.length)
          else none

/-! ## Trees -/

/-- an open group: where it was opened, its delimiter, and the trees before it, the last one first -/
structure Frame where
  opened : Nat
  delimiter : Delimiter
  before : List Tree

def opens? : Char → Option Delimiter
  | '(' => some .parenthesis
  | '[' => some .bracket
  | '\x7b' => some .brace
  | _ => none

def closes? : Char → Option Delimiter
  | ')' => some .parenthesis
  | ']' => some .bracket
  | '\x7d' => some .brace
  | _ => none

/-- read on: `place` characters are read, `frames` are open, `trees` are read in the innermost one, the last one
first -/
def scan : Nat → Nat → List Char → List Frame → List Tree → Except Nat (List Tree)
  | 0, place, _, _, _ => .error place
  | fuel + 1, place, s, frames, trees =>
    let gap := gapWidth (fuel + 1) s
    let place := place + gap
    match s.drop gap with
    | [] =>
      match frames with
      | [] => .ok trees.reverse
      | f :: _ => .error f.opened
    | c :: r =>
      let doc := (docComment? (c :: r)).filter fun d => wholeLines d.text
      match doc with
      | some d => scan fuel (place + d.width) ((c :: r).drop d.width) frames (d.trees place ++ trees)
      | none =>
        match (if errorLiteral.isPrefixOf (c :: r) then none else opens? c), closes? c, frames with
        | some d, _, _ => scan fuel (place + 1) r (⟨place, d, trees⟩ :: frames) []
        | none, some _, [] => .error place
        | none, some d, f :: outer =>
          if f.delimiter = d then
            scan fuel (place + 1) r outer (.group f.opened place d trees.reverse :: f.before)
          else .error place
        | none, none, _ =>
          match leaf place (c :: r) with
          | some (t, n) => scan fuel (place + n) ((c :: r).drop n) frames (t :: trees)
          | none => .error place

/-- the trees of a text, or the place where reading stopped -/
def trees (s : List Char) : Except Nat (List Tree) := scan (s.length + 1) 0 s [] []

end ProcessBuild.Source.Lexer
