/-
Expressions. Prefix operators and what follows an operand bind tighter than every infix operator; infix operators are
read by precedence, and comparisons do not chain. Where a block may follow, a brace after a path does not start the
fields of a structure.
-/
import ProcessBuild.Source.Grammar.Pattern

namespace ProcessBuild.Source.Grammar

open ProcessBuild.Source.Parser

/-- a block of statements -/
def block (r : Rules) : Parser Unit := inside .brace r.statements

/-- the shape of a block and of what ends in one without needing a semicolon -/
def blockShape : ExprShape := ⟨.block, true⟩

/-! ## Operators -/

/-- the infix operators, longer ones before their beginnings -/
def infixOperators : List (String × Precedence) := [
  ("+=", .assign), ("-=", .assign), ("*=", .assign), ("/=", .assign), ("%=", .assign), ("^=", .assign),
  ("&=", .assign), ("|=", .assign), ("<<=", .assign), (">>=", .assign), ("&&", .and), ("||", .or), ("<<", .shift),
  (">>", .shift), ("==", .compare), ("<=", .compare), ("!=", .compare), (">=", .compare), ("+", .sum), ("-", .sum),
  ("*", .product), ("/", .product), ("%", .product), ("^", .bitXor), ("&", .bitAnd), ("|", .bitOr), ("<", .compare),
  (">", .compare)]

/-- the infix operator that comes next, if one does -/
def nextOperator : Parser (Option (String × Precedence)) := fun s =>
  .ok (infixOperators.find? fun o => (sym o.1).startsAny s.rest, s)

def nextPrecedence : Parser Precedence := do
  match ← nextOperator with
  | some (_, p) => return p
  | none =>
    if ← peekOnly "=" ["=>"] then return .assign
    else if ← peek (sym "..") then return .range
    else if ← peek (kw "as") then return .cast
    else return .jump

/-- one round of the operators in an operand that bind tighter than the one before it -/
def tighterRound (r : Rules) (structs : Bool) (p : Precedence) (e : ExprShape) : Parser (Option ExprShape) := do
  let next ← nextPrecedence
  unless p.rank < next.rank || (next = p && p = .assign) do return none
  let before ← roundsLeft
  let e ← r.operators structs next e
  return if (← roundsLeft) = before then none else some e

/-- the operand after an infix operator -/
def rightOperand (r : Rules) (structs : Bool) (p : Precedence) : Parser ExprShape := do
  iterate (tighterRound r structs p) (← r.operand structs)

/-- what comes after a range whose end is missing -/
def rangeStops : List Expected := [
  sym ",", sym ";", sym "?", sym "=>", sym "=", sym "+", sym "/", sym "%", sym "^", sym ">", sym "<=", sym "!=",
  sym "-=", sym "*=", sym "&=", sym "|=", sym "<<=", kw "as"]

/-- the operator and the end of a range -/
def rangeRest (r : Rules) (structs : Bool) : Parser ExprShape := do
  let place ← here
  let halfOpen ← rangeOperator false
  let stops := (← atEnd) || (← peekAny rangeStops) || (← peekOnly "." [".."]) || (!structs && (← peek curlies))
  if halfOpen && stops then return ⟨.range place, false⟩
  return ⟨.range place, (← rightOperand r structs .range).endsInBrace⟩

/-- refuse what cannot follow a cast -/
def checkCast : Parser Unit := do
  if ← peekOnly "." [".."] then
    if ← peek2 (kw "await") then refuse (.castFollowedBy "`.await`")
    else if (← peek2 .identifier) && ((← peek3 parentheses) || (← peek3 (sym "::"))) then
      refuse (.castFollowedBy "a method call")
    else refuse (.castFollowedBy "a field access")
  else if ← peek (sym "?") then refuse (.castFollowedBy "`?`")
  else if ← peek squares then refuse (.castFollowedBy "indexing")
  else if ← peek parentheses then refuse (.castFollowedBy "a function call")

/-- one infix operator and its right operand, if one follows that binds at least so tightly -/
def operatorRound (r : Rules) (structs : Bool) (base : Precedence) (e : ExprShape) : Parser (Option ExprShape) := do
  if let .range _ := e.form then return none
  match ← nextOperator with
  | some (op, p) =>
    if p.rank < base.rank then return none
    if p = .compare && e.form = .comparison then refuse .chainedComparison
    symbol op
    let right ← rightOperand r structs p
    return some ⟨if p = .compare then .comparison else .other, right.endsInBrace⟩
  | none =>
    if base.rank ≤ Precedence.assign.rank && (← peekOnly "=" ["=>", "=="]) then
      symbol "="
      return some (← rightOperand r structs .assign).ending
    else if base.rank ≤ Precedence.range.rank && (← peek (sym "..")) then
      return some (← rangeRest r structs)
    else if base.rank ≤ Precedence.cast.rank && (← peek (kw "as")) then
      keyword "as"
      let t ← r.type false
      checkCast
      return some ⟨.other, t.endsInBrace⟩
    else return none

/-- the infix operators after an expression that bind at least so tightly, and their operands -/
def operatorsRule (r : Rules) (structs : Bool) (base : Precedence) (e : ExprShape) : Parser ExprShape :=
  iterate (operatorRound r structs base) e

def exprRule (r : Rules) (structs : Bool) : Parser ExprShape := do
  r.operators structs .jump (← r.operand structs)

/-! ## What follows an operand -/

/-- the parts of a text between points -/
def pointParts : List Char → List Char → List (List Char)
  | part, [] => [part.reverse]
  | part, c :: cs => if c = '.' then part.reverse :: pointParts [] cs else pointParts (c :: part) cs

/-- refuse characters that are no integer, or an integer with a suffix -/
def checkIndex (place : Option Nat) (part : List Char) : Parser Unit := do
  if Literal.width part = some part.length && Literal.isInteger (String.ofList part) then
    unless Literal.intDigits part = some part.length do refuseAt place .plainInteger
  else refuseAt place .integer

/-- indexes of nested tuples written as a float; whether it ends in a point, so that a member follows -/
def floatIndexes (place : Option Nat) (text : String) : Parser Bool := do
  let s := text.toList
  let pointed := s.getLast? = some '.'
  (pointParts [] (if pointed then s.dropLast else s)).forM (checkIndex place)
  return pointed

/-- access to a member: an index written as a float, a wait, a method call or a field -/
def access (r : Rules) : Parser Unit := do
  symbol "."
  let place ← here
  let done ← match ← literal? Literal.isFloat with
    | some text => do pure !(← floatIndexes place text)
    | none => pure false
  if done then return
  if ← keyword? "await" then return
  let named ← member
  let turbofish := named && (← peek (sym "::"))
  if turbofish then r.arguments
  if named && (turbofish || (← peek parentheses)) then
    discard (inside .parenthesis (commaList (r.expr true)))

/-- one call, access, index or question mark after an operand -/
def trailer (r : Rules) (e : ExprShape) : Parser (Option ExprShape) := do
  let isRange := match e.form with
    | .range _ => true
    | _ => false
  if ← peek parentheses then
    discard (inside .parenthesis (commaList (r.expr true)))
    return some .plain
  else if !isRange && (← peekOnly "." [".."]) then
    access r
    return some .plain
  else if ← peek squares then
    discard (inside .bracket (r.expr true))
    return some .plain
  else if !isRange && (← symbol? "?") then return some .plain
  else return none

def trailers (r : Rules) (e : ExprShape) : Parser ExprShape := iterate (trailer r) e

/-! ## Operands -/

/-- the fields of a structure; two dots stand for those of another one -/
def fieldValues (r : Rules) : Nat → Parser Unit
  | 0 => return
  | n + 1 => do
    if ← atEnd then return
    if ← symbol? ".." then
      unless ← atEnd do discard (r.expr true)
    else
      discard (outerAttributes r)
      let named ← member
      if !named || (← peek (sym ":")) then
        symbol ":"
        discard (r.expr true)
      if ← atEnd then return
      symbol ","
      fieldValues r n

/-- an expression that starts with a path: a macro, a structure, or the path -/
def exprFromPath (r : Rules) (structs : Bool) : Parser ExprShape := do
  let p ← qualifiedPath r true
  if !p.qualified && p.plain && (← peekOnly "!" ["!="]) then
    symbol "!"
    let braced := (← macroArguments) == .brace
    return ⟨.macroCall braced, braced⟩
  if structs && (← peek curlies) then
    inside .brace do fieldValues r (← roundsLeft)
    return ⟨.other, true⟩
  return .plain

def parenthesizedExpr (r : Rules) : Parser ExprShape := do
  discard (inside .parenthesis (commaList (r.expr true)))
  return .plain

/-- expressions in square brackets: a list, or one expression and how often it is repeated -/
def arrayExpr (r : Rules) : Parser ExprShape := do
  inside .bracket do
    if ← atEnd then return
    discard (r.expr true)
    if (← atEnd) || (← symbol? ",") then discard (commaList (r.expr true))
    else if ← symbol? ";" then discard (r.expr true)
    else refuse .commaOrSemicolon
  return .plain

/-- an expression in front of a block -/
def head (r : Rules) : Parser Unit := discard (r.expr false)

/-- one clause of an `if` expression; whether another one follows -/
def ifClause (r : Rules) (_ : Unit) : Parser (Option Unit) := do
  keyword "if"
  head r
  block r
  unless ← keyword? "else" do return none
  if ← peek (kw "if") then return some ()
  if ← peek curlies then
    attributedBlock r
    return none
  expect [kw "if", curlies]

def ifExpr (r : Rules) : Parser ExprShape := do
  iterate (ifClause r) ()
  return blockShape

def whileExpr (r : Rules) : Parser ExprShape := do
  keyword "while"
  head r
  attributedBlock r
  return blockShape

def forExpr (r : Rules) : Parser ExprShape := do
  keyword "for"
  discard (alternatives r)
  keyword "in"
  head r
  attributedBlock r
  return blockShape

def loopExpr (r : Rules) : Parser ExprShape := do
  keyword "loop"
  attributedBlock r
  return blockShape

/-- an arm of a `match` expression; a block as its body needs no comma after it -/
def arm (r : Rules) : Parser Unit := do
  discard (outerAttributes r)
  discard (alternatives r)
  if ← keyword? "if" then discard (r.expr true)
  symbol "=>"
  let body ← r.statementExpr
  if body.form = .block || (← atEnd) then discard (symbol? ",") else symbol ","

def matchExpr (r : Rules) : Parser ExprShape := do
  keyword "match"
  head r
  inside .brace do
    innerAttributes r
    discard (toEnd (arm r))
  return blockShape

def keywordBlock (r : Rules) (w : String) : Parser ExprShape := do
  keyword w
  attributedBlock r
  return blockShape

def tryBlock (r : Rules) : Parser ExprShape := do
  keyword "try"
  block r
  return blockShape

def blockExpr (r : Rules) : Parser ExprShape := do
  attributedBlock r
  return blockShape

def labeled (r : Rules) : Parser ExprShape := do
  lifetime
  symbol ":"
  if ← peek (kw "while") then whileExpr r
  else if ← peek (kw "for") then forExpr r
  else if ← peek (kw "loop") then loopExpr r
  else if ← peek curlies then blockExpr r
  else refuse .loopOrBlock

def asyncBlock (r : Rules) : Parser ExprShape := do
  keyword "async"
  discard (keyword? "move")
  block r
  return ⟨.other, true⟩

def closureArgument (r : Rules) : Parser Unit := do
  discard (outerAttributes r)
  discard r.pattern
  if ← symbol? ":" then discard (r.type true)

def closure (r : Rules) (structs : Bool) : Parser ExprShape := do
  discard (binder r)
  discard (keyword? "const")
  discard (keyword? "static")
  discard (keyword? "async")
  discard (keyword? "move")
  symbol "|"
  discard (separated "," (peek (sym "|")) (closureArgument r))
  symbol "|"
  if ← symbol? "->" then
    discard (r.type true)
    block r
    return ⟨.other, true⟩
  return (← exprRule r structs).ending

/-- whether an expression follows a keyword that may stand alone -/
def exprFollows : Parser Bool := do
  if (← peekWord) && !(← peek (kw "as")) then return true
  if ← peekAny [parentheses, squares, curlies, .literal, sym "..", sym "::", .lifetime, sym "#"] then return true
  return (← peekOnly "!" ["!="]) || (← peekOnly "-" ["-=", "->"]) || (← peekOnly "*" ["*="]) ||
    (← peekOnly "|" ["|="]) || (← peekOnly "&" ["&="]) || (← peekOnly "<" ["<=", "<<="])

def optionalExpr (r : Rules) (allowed : Bool) : Parser ExprShape := do
  if allowed && (← exprFollows) then return (← r.expr true).ending else return .plain

/-- a `break`, perhaps out of a labeled block and with a value -/
def breakExpr (r : Rules) (structs : Bool) : Parser ExprShape := do
  keyword "break"
  let place ← here
  let labeledLoop ← ahead do
    if ← lifetime? then peek (sym ":") else pure false
  if labeledLoop then
    discard (r.expr true)
    refuseAt place .parenthesesNeeded
  discard lifetime?
  optionalExpr r (structs || !(← peek curlies))

/-- a binding as a condition -/
def letExpr (r : Rules) (structs : Bool) : Parser ExprShape := do
  keyword "let"
  discard (alternatives r)
  symbol "="
  return (← r.operators structs .compare (← r.operand structs)).ending

def builtin : Parser ExprShape := do
  keyword "builtin"
  symbol "#"
  discard identifier
  inside .parenthesis everything
  return .plain

def closureFollows : Parser Bool := do
  if ← peekAny [sym "|", kw "move", kw "static"] then return true
  if ← peek (kw "for") then return ← ahead do
    keyword "for"
    parametersFollow
  if (← peek (kw "const")) && !(← peek2 curlies) then return true
  return (← peek (kw "async")) && ((← peek2 (sym "|")) || (← peek2 (kw "move")))

def pathFollows : Parser Bool := do
  if ← peekAny ([.identifier, sym "::", sym "<"] ++ pathWords) then return true
  return (← peek (kw "try")) && ((← peek2 (sym "!")) || (← peek2 (sym "::")))

/-- an operand by its first word -/
def keywordAtom (r : Rules) (structs : Bool) : Parser ExprShape := do
  if ← peek (kw "break") then breakExpr r structs
  else if ← keyword? "continue" then
    discard lifetime?
    return .plain
  else if ← keyword? "return" then optionalExpr r true
  else if ← keyword? "become" then return (← r.expr true).ending
  else if ← peek squares then arrayExpr r
  else if ← peek (kw "let") then letExpr r structs
  else if ← peek (kw "if") then ifExpr r
  else if ← peek (kw "while") then whileExpr r
  else if ← peek (kw "for") then forExpr r
  else if ← peek (kw "loop") then loopExpr r
  else if ← peek (kw "match") then matchExpr r
  else if ← keyword? "yield" then optionalExpr r true
  else if ← peek (kw "unsafe") then keywordBlock r "unsafe"
  else if ← peek (kw "const") then keywordBlock r "const"
  else if ← peek curlies then blockExpr r
  else if ← peek (sym "..") then rangeRest r structs
  else if ← keyword? "_" then return .plain
  else if ← peek .lifetime then labeled r
  else refuse .expression

/-- an operand without prefix operators -/
def atom (r : Rules) (structs : Bool) : Parser ExprShape := do
  if ← peek .literal then
    literal
    return .plain
  else if (← peek (kw "async")) && ((← peek2 curlies) || ((← peek2 (kw "move")) && (← peek3 curlies))) then
    asyncBlock r
  else if (← peek (kw "try")) && (← peek2 curlies) then tryBlock r
  else if ← closureFollows then closure r structs
  else if (← peek (kw "builtin")) && (← peek2 (sym "#")) then builtin
  else if ← pathFollows then exprFromPath r structs
  else if ← peek parentheses then parenthesizedExpr r
  else keywordAtom r structs

/-- an operand with its prefix operators and what follows it -/
def operandRule (r : Rules) (structs : Bool) : Parser ExprShape := do
  let attributed ← outerAttributes r
  if ← symbol? "&" then
    let raw := (← peek (kw "raw")) && ((← peek2 (kw "mut")) || (← peek2 (kw "const")))
    if raw then keyword "raw"
    let mutable_ ← keyword? "mut"
    if raw && !mutable_ then keyword "const"
    return (← r.operand structs).ending
  else if ← peekAny [sym "*", sym "!", sym "-"] then
    discard (do if ← symbol? "*" then return else if ← symbol? "!" then return else symbol "-")
    return (← r.operand structs).ending
  else
    let e ← trailers r (← atom r structs)
    if attributed then
      if let .range place := e.form then refuseAt place .attributedRange
    return e

/-- the start of a statement that is an expression; a block there is a whole expression unless it goes on at once -/
def statementStart (r : Rules) : Parser ExprShape := do
  if ← peek (kw "if") then ifExpr r
  else if ← peek (kw "while") then whileExpr r
  else if (← peek (kw "for")) && !(← closureFollows) then forExpr r
  else if ← peek (kw "loop") then loopExpr r
  else if ← peek (kw "match") then matchExpr r
  else if (← peek (kw "try")) && (← peek2 curlies) then tryBlock r
  else if ← peek (kw "unsafe") then keywordBlock r "unsafe"
  else if (← peek (kw "const")) && (← peek2 curlies) then keywordBlock r "const"
  else if ← peek curlies then blockExpr r
  else if ← peek .lifetime then labeled r
  else r.operand true

/-- an expression that ends at the brace of a leading block -/
def statementExprRule (r : Rules) : Parser ExprShape := do
  discard (outerAttributes r)
  let e ← statementStart r
  if e.form ≠ .block then r.operators true .jump e
  else if (← peekOnly "." [".."]) || (← peek (sym "?")) then
    r.operators true .jump (← trailers r e)
  else return e

end ProcessBuild.Source.Grammar
