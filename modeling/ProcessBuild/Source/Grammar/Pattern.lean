/-
Patterns.
-/
import ProcessBuild.Source.Grammar.Type

namespace ProcessBuild.Source.Grammar

open ProcessBuild.Source.Parser

/-- the body of a block: its attributes and statements -/
def attributedBlock (r : Rules) : Parser Unit :=
  inside .brace do
    innerAttributes r
    r.statements

/-- a pattern with alternatives; a bar may come first -/
def alternatives (r : Rules) : Parser PatternShape := do
  let leading ← symbol? "|"
  let first ← r.pattern
  let further ← asLongAs (peekOnly "|" ["||", "|="]) do
    symbol "|"
    discard r.pattern
  return if leading || !further.isEmpty then .other else first

/-- whether the operator of a range excludes its end -/
def rangeOperator (obsolete : Bool) : Parser Bool := do
  if ← peek (sym "..=") then
    symbol "..="
    return false
  if ← peek (sym "...") then
    unless obsolete do expect [sym "..="]
    symbol "..."
    return false
  symbol ".."
  return true

/-- the alternatives for an end of a range -/
def boundStarts : List Expected := [
  .literal, .identifier, sym "::", sym "<", kw "self", kw "Self", kw "super", kw "crate", kw "const"]

/-- an end of a range pattern, if there is one; whether there is -/
def rangeEnd (r : Rules) : Parser Bool := do
  if (← atEnd) || (← peekAny [sym "|", sym "=", sym ",", sym ";", kw "if"]) || (← peekOnly ":" ["::"]) then
    return false
  if ← peek .literal then literal
  else if ← peekAny ([.identifier, sym "::", sym "<"] ++ pathWords) then discard (qualifiedPath r true)
  else if ← peek (kw "const") then
    keyword "const"
    attributedBlock r
  else expect boundStarts
  return true

/-- the operator and the end of a range pattern after its start -/
def rangePattern (r : Rules) : Parser PatternShape := do
  let place ← here
  let halfOpen ← rangeOperator true
  if ← rangeEnd r then return .other
  unless halfOpen do refuse .upperBound
  return .openRange place

/-- a member of a structure: a name, or a number without a suffix; whether it is a name -/
def member : Parser Bool := do
  if ← peek .identifier then
    discard identifier
    return true
  let place ← here
  match ← literal? Literal.isInteger with
  | some text =>
    unless Literal.intDigits text.toList = some text.length do refuseAt place .plainInteger
    return false
  | none => refuse .identifierOrInteger

def fieldPattern (r : Rules) : Parser Unit := do
  let boxed ← keyword? "box"
  let byRef ← keyword? "ref"
  let mutable_ ← keyword? "mut"
  let marked := boxed || byRef || mutable_
  let named ← if marked then
      discard identifier
      pure true
    else member
  if (!marked && (← peek (sym ":"))) || !named then
    symbol ":"
    discard (alternatives r)

/-- the fields of a structure pattern; two dots stand for the rest of them -/
def fieldPatterns (r : Rules) : Nat → Parser Unit
  | 0 => return
  | n + 1 => do
    if ← atEnd then return
    discard (outerAttributes r)
    if ← peek (sym "..") then symbol ".."
    else
      fieldPattern r
      if ← atEnd then return
      symbol ","
      fieldPatterns r n

def patternFromPath (r : Rules) : Parser PatternShape := do
  let p ← qualifiedPath r true
  if !p.qualified && p.plain && (← peekOnly "!" ["!="]) then
    symbol "!"
    discard macroArguments
    return .other
  if ← peek curlies then
    inside .brace do fieldPatterns r (← roundsLeft)
    return .other
  if ← peek parentheses then
    inside .parenthesis (discard (commaList (alternatives r)))
    return .other
  if ← peek (sym "..") then rangePattern r else return .other

/-- a name in a pattern, and the pattern it stands for -/
def namePattern (r : Rules) : Parser PatternShape := do
  discard (keyword? "ref")
  discard (keyword? "mut")
  if ← peek (kw "self") then discard anyWord else discard identifier
  if ← symbol? "@" then discard r.pattern
  return .other

/-- a literal or a constant block, perhaps the start of a range -/
def literalPattern (r : Rules) : Parser PatternShape := do
  if ← peek .literal then literal
  else if ← peek (kw "const") then
    keyword "const"
    attributedBlock r
  else expect boundStarts
  if ← peek (sym "..") then rangePattern r else return .other

/-- a range pattern without a start, or the two dots that stand for the rest -/
def endPattern (r : Rules) : Parser PatternShape := do
  let place ← here
  let halfOpen ← rangeOperator false
  if ← rangeEnd r then return .openRange place
  unless halfOpen do refuse .upperBound
  return .rest

/-- a pattern in a slice, where an open range needs parentheses -/
def slicePattern (r : Rules) : Parser Unit := do
  match ← alternatives r with
  | .openRange place => refuseAt place .openRangeInSlice
  | _ => return

def patternStarts : List Expected := [
  .identifier, sym "::", sym "<", kw "_", .literal, kw "const", kw "ref", kw "mut", sym "&", parentheses, squares,
  sym "..", kw "const"]

/-- whether a pattern starts with a path that goes on -/
def pathPatternFollows : Parser Bool := do
  if ← peekAny [sym "::", sym "<", kw "Self", kw "super", kw "crate"] then return true
  if (← peek (kw "self")) && (← peek2 (sym "::")) then return true
  unless ← peek .identifier do return false
  return (← peek2 (sym "::")) || (← peek2 (sym "!")) || (← peek2 curlies) || (← peek2 parentheses)
    || (← peek2 (sym ".."))

/-- a pattern without alternatives -/
def patternRule (r : Rules) : Parser PatternShape := do
  if ← pathPatternFollows then patternFromPath r
  else if ← peek (kw "_") then
    keyword "_"
    return .other
  else if ← peek (kw "box") then
    keyword "box"
    discard r.pattern
    return .other
  else if ← peekAny [sym "-", .literal, kw "const"] then literalPattern r
  else if ← peekAny [kw "ref", kw "mut", kw "self", .identifier] then namePattern r
  else if ← peek (sym "&") then
    symbol "&"
    discard (keyword? "mut")
    discard r.pattern
    return .other
  else if ← peek parentheses then
    inside .parenthesis (discard (commaList (alternatives r)))
    return .other
  else if ← peek squares then
    inside .bracket (discard (commaList (slicePattern r)))
    return .other
  else if ← peekOnly ".." ["..."] then endPattern r
  else expect patternStarts

end ProcessBuild.Source.Grammar
