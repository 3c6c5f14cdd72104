/-
Types and the bounds on them.
-/
import ProcessBuild.Source.Grammar.Path

namespace ProcessBuild.Source.Grammar

open ProcessBuild.Source.Parser

/-! ## Generic parameters -/

def lifetimeParameter : Parser Unit := do
  lifetime
  if ← symbol? ":" then
    discard (plusList (do return (← atEnd) || (← peekAny [sym ",", sym ">"])) lifetime)

def typeParameter (r : Rules) : Parser Unit := do
  discard identifier
  if ← symbol? ":" then
    discard (plusList (do return (← atEnd) || (← peekAny [sym ",", sym ">", sym "="])) (r.bound false true))
  if ← symbol? "=" then discard (r.type true)

def constParameter (r : Rules) : Parser Unit := do
  keyword "const"
  discard identifier
  symbol ":"
  discard (r.type true)
  if ← symbol? "=" then constArgument r

def genericParameter (r : Rules) : Parser Unit := do
  discard (outerAttributes r)
  if ← peek .lifetime then lifetimeParameter
  else if ← peek .identifier then typeParameter r
  else if ← peek (kw "const") then constParameter r
  else if ← peek (kw "_") then discard anyWord
  else expect [.lifetime, .identifier, kw "const"]

def boundParameter (r : Rules) : Parser Unit := do
  discard (outerAttributes r)
  if ← peek .identifier then typeParameter r
  else if ← peek .lifetime then lifetimeParameter
  else if ← peek (kw "const") then constParameter r
  else expect [.identifier, .lifetime, kw "const"]

/-- the generic parameters of an item, if there are any; whether there are -/
def generics (r : Rules) : Parser Bool := do
  unless ← symbol? "<" do return false
  discard (separated "," (peek (sym ">")) (genericParameter r))
  symbol ">"
  return true

/-- a binder of lifetimes, if there is one; whether there is -/
def binder (r : Rules) : Parser Bool := do
  unless ← keyword? "for" do return false
  symbol "<"
  discard (separated "," (peek (sym ">")) (boundParameter r))
  symbol ">"
  return true

/-- whether angle brackets at the front are generic parameters rather than the start of a path -/
def parametersFollow : Parser Bool := do
  unless ← peek (sym "<") do return false
  if (← peek2 (sym ">")) || (← peek2 (sym "#")) || (← peek2 (kw "const")) then return true
  unless (← peek2 .lifetime) || (← peek2 .identifier) do return false
  return (← peek3 (sym ">")) || (← peek3 (sym ",")) || ((← peek3 (sym ":")) && !(← peek3 (sym "::"))) ||
    (← peek3 (sym "="))

/-! ## Bounds -/

/-- captured names up to the closing angle bracket -/
def capturedNames : Nat → Parser Unit
  | 0 => return
  | n + 1 => do
    if ← peek .lifetime then lifetime
    else if ← peekAny [.identifier, kw "Self"] then discard anyWord
    else if ← peek (sym ">") then return
    else expect [.lifetime, .identifier, sym ">"]
    if ← symbol? "," then capturedNames n
    else unless ← peek (sym ">") do expect [sym ",", sym ">"]

def captures : Parser Unit := do
  keyword "use"
  symbol "<"
  capturedNames (← roundsLeft)
  symbol ">"

/-- the const marks of a trait bound; whether there are any -/
def constMarks (constant : Bool) : Parser Bool := do
  let place ← here
  if ← peek squares then
    inside .bracket (keyword "const")
    unless constant do refuseAt place .conditionallyConstBound
    return true
  if ← keyword? "const" then
    unless constant do refuseAt place .constBound
    return true
  return false

def traitBound (r : Rules) (constant : Bool) : Parser Bound := do
  let bound ← binder r
  let marked ← constMarks constant
  let polarity ← here
  let maybe ← symbol? "?"
  let bound ← if !bound && maybe then binder r else pure bound
  let p ← path r false
  let called := p.openEnded && ((← peek parentheses) || ((← peek (sym "::")) && (← peek3 parentheses)))
  let result ← if called then
      discard (symbol? "::")
      callArguments r
    else pure none
  if bound && maybe then refuseAt polarity .binderWithPolarity
  let braced := (result.map (·.endsInBrace)).getD false
  return if marked then .constTrait braced else .trait p.path braced

def boundRule (r : Rules) (withCaptures constant : Bool) : Parser Bound := do
  if ← peek .lifetime then
    lifetime
    return .lifetime
  if ← peek (kw "use") then
    let place ← here
    captures
    unless withCaptures do refuseAt place .capturing
    return .captures
  if ← peek parentheses then
    match ← inside .parenthesis (traitBound r constant) with
    | .trait p _ => return .trait p false
    | .constTrait _ => return .constTrait false
    | b => return b
  else traitBound r constant

/-- bounds with plus signs between them, if `plus` allows several; the last one tells how the text ends -/
def boundsFor (r : Rules) (plus withCaptures constant : Bool) : Nat → Parser (List Bound × Bool)
  | 0 => return ([], false)
  | n + 1 => do
    let b ← r.bound withCaptures constant
    unless plus && (← symbol? "+") do return ([b], false)
    let goesOn := (← peekWord) || (← peekAny [sym "::", sym "?", .lifetime, parentheses])
      || (constant && (← peek squares))
    unless goesOn do return ([b], true)
    let (bs, open_) ← boundsFor r plus withCaptures constant n
    return (b :: bs, open_)

/-- bounds with plus signs between them, and whether a plus sign comes last -/
def bounds (r : Rules) (plus withCaptures constant : Bool) : Parser (List Bound × Bool) := do
  let n ← roundsLeft
  boundsFor r plus withCaptures constant n

def isTrait : Bound → Bool
  | .trait .. => true
  | .constTrait _ => true
  | _ => false

def boundsEndInBrace (bs : List Bound × Bool) : Bool :=
  !bs.2 && match bs.1.getLast? with
    | some (.trait _ braced) => braced
    | _ => false

/-- the bounds of a trait object; one of them must be on a trait -/
def objectBounds (r : Rules) (plus : Bool) (place : Option Nat) : Parser (List Bound × Bool) := do
  let bs ← bounds r plus false false
  unless bs.1.any isTrait do refuseAt place .traitlessObject
  return bs

/-! ## Types -/

/-- a type of no special form -/
def otherType (endsInBrace : Bool) : TypeShape := ⟨.other, endsInBrace⟩

/-- further bounds after a first one that stands for a type -/
def furtherBounds (r : Rules) : Parser Unit :=
  discard (asLongAs (peek (sym "+")) do
    symbol "+"
    discard (r.bound false false))

/-- the inside of parentheses that stand for a type: whether they are a bound that others may follow, a type alone, or
a tuple -/
inductive Parenthesized where
  | tuple
  | lifetimes
  | maybeBound
  | type (shape : TypeShape)

/-- the inside of parentheses that stand for a type -/
def parenthesized (r : Rules) : Parser Parenthesized := do
  if ← atEnd then return .tuple
  if ← peek .lifetime then
    let place ← here
    discard (objectBounds r true place)
    return .lifetimes
  if ← peek (sym "?") then
    discard (traitBound r false)
    return .maybeBound
  let t ← r.type true
  unless ← symbol? "," do return .type t
  discard (commaList (r.type true))
  return .tuple

def parenthesizedType (r : Rules) (plus : Bool) : Parser TypeShape := do
  match ← inside .parenthesis (parenthesized r) with
  | .tuple => return otherType false
  | .lifetimes => return ⟨.parenthesized, false⟩
  | .maybeBound =>
    furtherBounds r
    return otherType false
  | .type t =>
    let isBound := match t.form with
      | .path p => !p.qualified
      | .bound => true
      | _ => false
    if plus && isBound && (← peek (sym "+")) then
      furtherBounds r
      return otherType false
    return ⟨.parenthesized, false⟩

/-- the binding interface of a function, if one is written -/
def abi? : Parser Unit := do
  if ← keyword? "extern" then discard (literal? Literal.isString)

def functionTypeArgument (r : Rules) (receiver : Bool) : Parser Unit := do
  discard (outerAttributes r)
  let mutSelf := receiver && (← peek (kw "mut")) && (← peek2 (kw "self"))
  if mutSelf then keyword "mut"
  let isSelf := receiver && (← peek (kw "self"))
  let named := ((← peekAny [.identifier, kw "_"]) || isSelf) && (← peek2 (sym ":")) && !(← peek2 (sym "::"))
  if named then
    discard anyWord
    symbol ":"
  if receiver && !(named && isSelf) && (← peek (kw "mut")) && (← peek2 (kw "self")) then
    keyword "mut"
    keyword "self"
  else if mutSelf && !named then keyword "self"
  else discard (r.type true)

/-- the arguments of a function type; the last one may be open -/
def functionTypeArguments (r : Rules) : Nat → (first : Bool) → Parser Unit
  | 0, _ => return
  | n + 1, first => do
    if ← atEnd then return
    discard (outerAttributes r)
    let dotsAfterName := (← peekAny [.identifier, kw "_"]) && (← peek2 (sym ":")) && (← peek3 (sym "..."))
    if (← peek (sym "...")) || dotsAfterName then
      if ← peekAny [.identifier, kw "_"] then
        discard anyWord
        symbol ":"
      symbol "..."
      discard (symbol? ",")
    else
      functionTypeArgument r first
      if ← atEnd then return
      symbol ","
      functionTypeArguments r n false

def functionType (r : Rules) : Parser TypeShape := do
  discard (keyword? "unsafe")
  abi?
  keyword "fn"
  inside .parenthesis do
    let n ← roundsLeft
    functionTypeArguments r n true
  let result ← resultType r false
  return otherType ((result.map (·.endsInBrace)).getD false)

/-- a type that starts with a path: the path itself, a macro, or a list of bounds -/
def typeFromPath (r : Rules) (plus bound : Bool) : Parser TypeShape := do
  let (p, braced) ← typePath r
  if p.qualified then return ⟨.path p, braced⟩
  if p.plain && (← peekOnly "!" ["!="]) then
    symbol "!"
    return otherType ((← macroArguments) == .brace)
  if bound || (plus && (← peek (sym "+"))) then
    let further ← if plus then
        asLongAs (peek (sym "+")) do
          symbol "+"
          if (← peekWord) || (← peekAny [sym "::", sym "?", .lifetime, parentheses]) then
            return isTrait (← r.bound false false)
          else return false
      else pure []
    return ⟨if further.isEmpty then .bound else .other, further.isEmpty && braced⟩
  return ⟨.path p, braced⟩

/-- the words that start a path besides identifiers -/
def pathWords : List Expected := [kw "super", kw "self", kw "Self", kw "crate"]

/-- the alternatives for a type after a binder -/
def boundTypeStarts : List Expected :=
  [.identifier, kw "fn", kw "unsafe", kw "extern", kw "super", kw "self", kw "Self", kw "crate"]

def typeStarts : List Expected := [
  kw "for", parentheses, kw "fn", kw "unsafe", kw "extern", .identifier, sym "::", sym "<", kw "dyn", squares, sym "*",
  sym "&", sym "!", kw "impl", kw "_", .lifetime]

def pointerType (r : Rules) : Parser TypeShape := do
  symbol "*"
  if ← peek (kw "const") then keyword "const"
  else if ← peek (kw "mut") then keyword "mut"
  else expect [kw "const", kw "mut"]
  return otherType (← r.type false).endsInBrace

def referenceType (r : Rules) : Parser TypeShape := do
  symbol "&"
  discard lifetime?
  discard (keyword? "mut")
  return otherType (← r.type false).endsInBrace

def arrayType (r : Rules) : Parser TypeShape := do
  inside .bracket do
    discard (r.type true)
    if ← symbol? ";" then discard (r.expr true)
  return otherType false

/-- a trait object with its keyword -/
def dynType (r : Rules) (plus : Bool) : Parser TypeShape := do
  let place ← here
  keyword "dyn"
  discard (symbol? "*")
  return otherType (boundsEndInBrace (← objectBounds r plus place))

def implType (r : Rules) (plus : Bool) : Parser TypeShape := do
  let place ← here
  keyword "impl"
  let bs ← bounds r plus true true
  unless bs.1.any isTrait do refuseAt place .traitlessImpl
  return otherType (boundsEndInBrace bs)

/-- a trait object written as bounds that start with a lifetime -/
def bareObjectType (r : Rules) : Parser TypeShape := do
  let place ← here
  return otherType (boundsEndInBrace (← objectBounds r true place))

def typeRule (r : Rules) (plus : Bool) : Parser TypeShape := do
  let bound ← binder r
  if bound && (!(← peekAny boundTypeStarts) || (← peek (kw "dyn"))) then expect boundTypeStarts
  if ← peek parentheses then parenthesizedType r plus
  else if ← peekAny [kw "fn", kw "unsafe", kw "extern"] then functionType r
  else if ← peekAny ([.identifier, sym "::", sym "<"] ++ pathWords) then typeFromPath r plus bound
  else if ← peek (kw "dyn") then dynType r plus
  else if ← peek squares then arrayType r
  else if ← peek (sym "*") then pointerType r
  else if ← peek (sym "&") then referenceType r
  else if (← peek (sym "!")) && !(← peek (sym "=")) then
    symbol "!"
    return otherType false
  else if ← peek (kw "impl") then implType r plus
  else if ← peek (kw "_") then
    keyword "_"
    return otherType false
  else if ← peek .lifetime then bareObjectType r
  else expect typeStarts

/-! ## Where clauses -/

/-- whether a list in a where clause ends here -/
def whereEnds : Parser Bool := do
  return (← atEnd) || (← peekAny [curlies, sym ",", sym ";", sym "="]) || (← peekOnly ":" ["::"])

def condition (r : Rules) : Parser Unit := do
  if (← peek .lifetime) && (← peek2 (sym ":")) then
    lifetime
    symbol ":"
    discard (plusList (do return (← atEnd) || (← peekAny [curlies, sym ",", sym ";", sym ":", sym "="])) lifetime)
  else
    discard (binder r)
    discard (r.type true)
    symbol ":"
    discard (plusList whereEnds (r.bound false true))

/-- conditions with commas between them -/
def conditionsFor (r : Rules) : Nat → Parser Unit
  | 0 => return
  | n + 1 => do
    if ← whereEnds then return
    condition r
    if ← symbol? "," then conditionsFor r n

/-- a where clause, if there is one; whether there is -/
def whereClause (r : Rules) : Parser Bool := do
  unless ← keyword? "where" do return false
  if ← parametersFollow then refuse .genericWhere
  let n ← roundsLeft
  conditionsFor r n
  return true

end ProcessBuild.Source.Grammar
