/-
What may stand in front of items and their parts: attributes, visibility, and the paths without arguments that name
attributes and macros.
-/
import ProcessBuild.Source.Grammar.Basic

namespace ProcessBuild.Source.Grammar

open ProcessBuild.Source.Parser

/-- the words that may stand in a plain path: identifiers and the four that name places -/
def plainSegments : List Expected := [.identifier, kw "super", kw "self", kw "Self", kw "crate"]

/-- the segments of a plain path, and whether a separator was left open at its end -/
def plainSegmentList : Nat → Parser (List String × Bool)
  | 0 => return ([], false)
  | n + 1 => do
    unless ← peekAny plainSegments do return ([], true)
    let w ← anyWord
    unless ← symbol? "::" do return ([w], false)
    let (ws, isOpen) ← plainSegmentList n
    return (w :: ws, isOpen)

/-- a path without arguments -/
def plainPath : Parser Path := do
  let absolute ← symbol? "::"
  let n ← roundsLeft
  let (segments, isOpen) ← plainSegmentList n
  if segments.isEmpty then discard identifier
  if isOpen then refuse .segment
  return ⟨absolute, segments⟩

/-- the value of an attribute: a literal alone, or an expression that is no attribute -/
def attributeValue (r : Rules) : Parser Unit := do
  let alone ← attempt do
    literal
    unless ← atEnd do refuse (.expected [])
  if alone.isNone then
    if (← peek (sym "#")) && (← peek2 squares) then refuse .nestedAttribute
    discard (r.expr true)

def attributeContent (r : Rules) : Parser Unit := do
  if ← peek (kw "unsafe") then keyword "unsafe" else discard plainPath
  if ← peekAny [parentheses, squares, curlies] then discard anyGroup
  else if ← symbol? "=" then attributeValue r

/-- an attribute of what follows it -/
def outerAttribute (r : Rules) : Parser Unit := do
  symbol "#"
  inside .bracket (attributeContent r)

/-- an attribute of what it stands in -/
def innerAttribute (r : Rules) : Parser Unit := do
  symbol "#"
  symbol "!"
  inside .bracket (attributeContent r)

/-- the attributes of what follows; whether there are any -/
def outerAttributes (r : Rules) : Parser Bool := do
  return !(← asLongAs (peek (sym "#")) (outerAttribute r)).isEmpty

/-- the attributes of what they stand in -/
def innerAttributes (r : Rules) : Parser Unit := do
  discard (asLongAs (do return (← peek (sym "#")) && (← peek2 (sym "!"))) (innerAttribute r))

/-- a restriction of visibility in parentheses, if that is what the parentheses are -/
def restriction : Parser Unit := do
  let form ← ahead (inside .parenthesis do
    if ← peekAny [kw "crate", kw "self", kw "super"] then
      discard anyWord
      return if ← atEnd then 1 else 0
    else if ← peek (kw "in") then return 2
    else return 0)
  if form = 1 then inside .parenthesis (discard anyWord)
  else if form = 2 then
    inside .parenthesis do
      keyword "in"
      discard plainPath

/-- the visibility of an item; whether one is written -/
def visibility : Parser Bool := do
  if ← keyword? "pub" then
    if ← peek parentheses then restriction
    return true
  else return false

/-- the arguments of a macro and how they are delimited -/
def macroArguments : Parser Delimiter := anyGroup

/-- the use of a macro as an item of its own: a semicolon ends it unless braces do; a new name may come first -/
def macroItem (r : Rules) (named : Bool) : Parser Unit := do
  discard (outerAttributes r)
  discard plainPath
  symbol "!"
  if named then
    if ← peekAny [kw "try", .identifier] then discard anyWord
  let d ← macroArguments
  unless d = .brace do symbol ";"

end ProcessBuild.Source.Grammar
