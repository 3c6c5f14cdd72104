/-
Paths with arguments, as they stand in types and expressions. In an expression angle brackets after a name are
arguments only when a path separator comes first.
-/
import ProcessBuild.Source.Grammar.Attribute

namespace ProcessBuild.Source.Grammar

open ProcessBuild.Source.Parser

/-- a constant as a generic argument: a literal, a name, or a block -/
def constArgument (r : Rules) : Parser Unit := do
  if ← peek .literal then literal
  else if ← peek .identifier then discard identifier
  else if ← peek curlies then
    inside .brace do
      innerAttributes r
      r.statements
  else expect [.literal, .identifier, curlies]

/-- whether a type can name an associated item in generic arguments -/
def TypeShape.namesAssociated (t : TypeShape) : Bool :=
  match t.form with
  | .path p => !p.qualified && !p.path.absolute && p.path.segments.length == 1 && !p.called
  | _ => false

/-- a generic argument: a lifetime, a constant, a type, or what an associated item is or is bound to -/
def genericArgument (r : Rules) : Parser Unit := do
  if (← peek .lifetime) && !(← peek2 (sym "+")) then
    lifetime
  else if ← peekAny [.literal, curlies] then
    constArgument r
  else
    let t ← r.type true
    if TypeShape.namesAssociated t then
      if ← symbol? "=" then
        if ← peekAny [.literal, curlies] then constArgument r else discard (r.type true)
      else if ← symbol? ":" then
        discard (plusList (peekAny [sym ",", sym ">"]) (r.bound false true))

def angleArguments (r : Rules) : Parser Unit := do
  discard (symbol? "::")
  symbol "<"
  discard (separated "," (peek (sym ">")) (genericArgument r))
  symbol ">"

/-- the result type of a function, if there is one: whether its text ends in a brace and whether it is a type in
parentheses -/
def resultType (r : Rules) (plus : Bool) : Parser (Option TypeShape) := do
  if ← symbol? "->" then return some (← r.type plus) else return none

/-- generic arguments of a function: types in parentheses and a result -/
def callArguments (r : Rules) : Parser (Option TypeShape) := do
  discard (inside .parenthesis (commaList (r.type true)))
  resultType r false

/-- whether angle brackets after a name are its arguments -/
def argumentsFollow (inExpr : Bool) : Parser Bool := do
  if !inExpr && (← peekOnly "<" ["<=", "<<="]) then return true
  return (← peek (sym "::")) && (← peek3 (sym "<"))

/-- a segment of a path: its name and whether it has arguments -/
def pathSegment (r : Rules) (inExpr : Bool) : Parser (String × Bool) := do
  if ← peekAny [kw "super", kw "self", kw "crate", kw "try"] then
    return (← anyWord, false)
  let name ← if ← peek (kw "Self") then anyWord else identifier
  if ← argumentsFollow inExpr then
    r.arguments
    return (name, true)
  return (name, false)

def moreSegments (r : Rules) (inExpr : Bool) : Parser (List (String × Bool)) :=
  asLongAs (do return (← peek (sym "::")) && !(← peek3 parentheses)) do
    symbol "::"
    pathSegment r inExpr

def written (absolute qualified : Bool) (segments : List (String × Bool)) : WrittenPath := {
  path := ⟨absolute, segments.map (·.1)⟩
  qualified
  plain := segments.all fun s => !s.2
  openEnded := !(segments.getLast?.any (·.2))
  called := false }

def path (r : Rules) (inExpr : Bool) : Parser WrittenPath := do
  let absolute ← symbol? "::"
  let first ← pathSegment r inExpr
  return written absolute false (first :: (← moreSegments r inExpr))

/-- the segments after a type in angle brackets -/
def qualifiedSegments (r : Rules) (inExpr : Bool) : Nat → Parser (List (String × Bool))
  | 0 => return []
  | n + 1 => do
    let s ← pathSegment r inExpr
    if ← symbol? "::" then return s :: (← qualifiedSegments r inExpr n) else return [s]

/-- a path that may start with a type in angle brackets, seen as a trait there or not -/
def qualifiedPath (r : Rules) (inExpr : Bool) : Parser WrittenPath := do
  if ← symbol? "<" then
    discard (r.type true)
    let base ← if ← keyword? "as" then some <$> path r false else pure none
    symbol ">"
    symbol "::"
    let n ← roundsLeft
    let tail := written true true (← qualifiedSegments r inExpr n)
    match base with
    | none => return tail
    | some b => return { tail with path := ⟨b.path.absolute, b.path.segments ++ tail.path.segments⟩ }
  else path r inExpr

/-- one round of the arguments of a function after a path in a type; nothing when none follow -/
def callRound (r : Rules) (state : WrittenPath × Bool) : Parser (Option (WrittenPath × Bool)) := do
  let (p, _) := state
  unless p.openEnded do return none
  unless (← peek parentheses) || ((← peek (sym "::")) && (← peek3 parentheses)) do return none
  discard (symbol? "::")
  let result ← callArguments r
  let braced := (result.map (·.endsInBrace)).getD false
  let p := { p with plain := false, openEnded := false, called := true }
  let goesOn := match result with
    | none => true
    | some t => match t.form with
      | .parenthesized => true
      | _ => false
  unless goesOn do return some (p, braced)
  let more ← moreSegments r false
  if more.isEmpty then return some (p, braced)
  return some ({ written p.path.absolute p.qualified more with
    path := ⟨p.path.absolute, p.path.segments ++ more.map (·.1)⟩
    plain := false }, false)

/-- a path as a type, and whether its text ends in a brace -/
def typePath (r : Rules) : Parser (WrittenPath × Bool) := do
  iterate (callRound r) (← qualifiedPath r false, false)

end ProcessBuild.Source.Grammar
