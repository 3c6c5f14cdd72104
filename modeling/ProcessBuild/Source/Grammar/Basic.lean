/-
The shapes that the grammar needs of what was read, and the parts of the grammar that refer to each other. `Rules` holds
one parser for each such part; a rule of the grammar is a parser made from `Rules`, so the grammar as a whole is the
iteration of one step and its depth is bounded by a number (`Grammar.upTo`).
-/
import ProcessBuild.Source.Stream
import ProcessBuild.Source.Item

namespace ProcessBuild.Source

/-- a path as it is written in types and expressions -/
structure WrittenPath where
  path : Path
  /-- whether it starts with a type in angle brackets -/
  qualified : Bool
  /-- whether no segment has arguments -/
  plain : Bool
  /-- whether the last segment has no arguments -/
  openEnded : Bool
  /-- whether the last segment has arguments in parentheses -/
  called : Bool
  deriving Repr

/-- the forms of types that the grammar tells apart -/
inductive TypeForm where
  | path (path : WrittenPath)
  | parenthesized
  | bound
  | other
  deriving Repr

/-- a type: its form and whether its text ends in a brace -/
structure TypeShape where
  form : TypeForm
  endsInBrace : Bool
  deriving Repr

/-- a bound of a type: on a trait, on a trait where it is const, a lifetime, or a list of captures -/
inductive Bound where
  | trait (path : Path) (endsInBrace : Bool)
  | constTrait (endsInBrace : Bool)
  | lifetime
  | captures
  deriving Repr

/-- the forms of patterns that the grammar tells apart -/
inductive PatternShape where
  | rest
  | openRange (operator : Option Nat)
  | other
  deriving Repr

/-- the forms of expressions that the grammar tells apart -/
inductive ExprForm where
  /-- ends a statement without a semicolon -/
  | block
  | macroCall (braced : Bool)
  | range (operator : Option Nat)
  | comparison
  | other
  deriving DecidableEq, Repr

/-- an expression: its form and whether its text ends in a brace -/
structure ExprShape where
  form : ExprForm
  endsInBrace : Bool
  deriving Repr

/-- an expression of no special form -/
def ExprShape.plain : ExprShape := ⟨.other, false⟩

/-- an expression in front of others, which ends in a brace when the last one does -/
def ExprShape.ending (e : ExprShape) : ExprShape := ⟨.other, e.endsInBrace⟩

/-- how tightly operators bind, loosest first -/
inductive Precedence where
  | jump
  | assign
  | range
  | or
  | and
  | binding
  | compare
  | bitOr
  | bitXor
  | bitAnd
  | shift
  | sum
  | product
  | cast
  deriving DecidableEq, Repr

/-- the position in the order of precedences -/
def Precedence.rank : Precedence → Nat
  | jump => 0
  | assign => 1
  | range => 2
  | or => 3
  | and => 4
  | binding => 5
  | compare => 6
  | bitOr => 7
  | bitXor => 8
  | bitAnd => 9
  | shift => 10
  | sum => 11
  | product => 12
  | cast => 13

/-- the parts of the grammar that refer to each other -/
structure Rules where
  /-- a type; `plus` allows several bounds -/
  type : (plus : Bool) → Parser TypeShape
  /-- generic arguments, from the opening angle bracket on -/
  arguments : Parser Unit
  /-- one bound of a type -/
  bound : (captures constant : Bool) → Parser Bound
  /-- a pattern without alternatives -/
  pattern : Parser PatternShape
  /-- an expression; `structs` allows a brace after a path -/
  expr : (structs : Bool) → Parser ExprShape
  /-- an expression with prefix operators, up to the next infix operator -/
  operand : (structs : Bool) → Parser ExprShape
  /-- the infix operators after an expression that bind at least so tightly, and their operands -/
  operators : (structs : Bool) → Precedence → ExprShape → Parser ExprShape
  /-- an expression that ends at the brace of a leading block -/
  statementExpr : Parser ExprShape
  /-- the statements of a block -/
  statements : Parser Unit
  /-- an item -/
  item : Parser Item
  /-- an item after its attributes -/
  itemBody : Parser Item
  /-- what a use declaration brings in, nothing where a branch starts anew at the root; `root` allows that -/
  useTree : (root : Bool) → Parser (Option UseTree)

/-- the rules of no depth, which refuse everything -/
instance : Inhabited Rules := ⟨{
  type := fun _ => default
  arguments := default
  bound := fun _ _ => default
  pattern := default
  expr := fun _ => default
  operand := fun _ => default
  operators := fun _ _ _ => default
  statementExpr := default
  statements := default
  item := default
  itemBody := default
  useTree := fun _ => default }⟩

end ProcessBuild.Source
