/-
Statements. A statement that starts like an item is an item; an expression needs a semicolon after it unless it is a
block or ends the body.
-/
import ProcessBuild.Source.Grammar.Expr

namespace ProcessBuild.Source.Grammar

open ProcessBuild.Source.Parser

def needsSemicolon (e : ExprShape) : Bool :=
  match e.form with
  | .block => false
  | .macroCall braced => !braced
  | _ => true

/-- a binding, with what to do when its pattern does not match -/
def localBinding (r : Rules) : Parser Unit := do
  keyword "let"
  discard r.pattern
  if ← symbol? ":" then discard (r.type true)
  if ← symbol? "=" then
    let e ← r.expr true
    unless e.endsInBrace do
      if ← keyword? "else" then block r
  symbol ";"

/-- how a statement goes on when it starts with the name of a macro -/
inductive MacroUse where
  | item
  | braces
  | none

/-- how a statement goes on when it starts with the name of a macro -/
def macroUse : Parser MacroUse := ahead do
  match ← attempt plainPath with
  | none => return .none
  | some _ =>
    unless ← peek (sym "!") do return .none
    if (← peek2 .identifier) || (← peek2 (kw "try")) then return .item
    let goesOn := ((← peek3 (sym ".")) && !(← peek3 (sym ".."))) || (← peek3 (sym "?"))
    return if (← peek2 curlies) && !goesOn then .braces else .none

/-- whether a constant item, rather than a constant expression, starts here -/
def constItemFollows : Parser Bool := do
  unless ← peek (kw "const") do return false
  if (← peek2 curlies) || (← peek2 (kw "static")) || (← peek2 (kw "move")) || (← peek2 (sym "|")) then return false
  unless ← peek2 (kw "async") do return true
  return (← peek3 (kw "unsafe")) || (← peek3 (kw "extern")) || (← peek3 (kw "fn"))

/-- whether a static item, rather than a closure, starts here -/
def staticItemFollows : Parser Bool := do
  unless ← peek (kw "static") do return false
  if ← peek2 (kw "mut") then return true
  return ← peek2 .identifier

def itemFollows : Parser Bool := do
  if ← peekAny [kw "pub", kw "extern", kw "use", kw "fn", kw "mod", kw "type", kw "struct", kw "enum", kw "trait",
      kw "impl", kw "macro"] then return true
  if (← peek (kw "crate")) && !(← peek2 (sym "::")) then return true
  if ← staticItemFollows then return true
  if ← constItemFollows then return true
  if (← peek (kw "unsafe")) && !(← peek2 curlies) then return true
  if (← peek (kw "async")) && ((← peek2 (kw "unsafe")) || (← peek2 (kw "extern")) || (← peek2 (kw "fn"))) then
    return true
  if (← peek (kw "union")) && (← peek2 .identifier) then return true
  if (← peek (kw "auto")) && (← peek2 (kw "trait")) then return true
  return (← peek (kw "default")) && ((← peek2 (kw "unsafe")) || (← peek2 (kw "impl")))

/-- a statement; whether it needs a semicolon before another one -/
def statement (r : Rules) : Parser Bool := do
  discard (outerAttributes r)
  let use ← macroUse
  if let .braces := use then
    discard plainPath
    symbol "!"
    discard macroArguments
    discard (symbol? ";")
    return false
  if ← peek (kw "let") then
    localBinding r
    return false
  let isItem := match use with
    | .item => true
    | _ => false
  if isItem || (← itemFollows) then
    discard r.itemBody
    return false
  let e ← r.statementExpr
  if ← symbol? ";" then return false
  return needsSemicolon e

/-- one statement of a body after its empty statements; nothing at the end of the body -/
def statementRound (r : Rules) : Parser (Option Unit) := do
  discard (asLongAs (peek (sym ";")) (symbol ";"))
  if ← atEnd then return none
  let open_ ← statement r
  if open_ && !(← atEnd) then refuse .missingSemicolon
  return some ()

def statementsRule (r : Rules) : Parser Unit := discard (collect (statementRound r))

end ProcessBuild.Source.Grammar
