/-
The grammar of source text and the reading of a file. The rules refer to each other, so the grammar is iterated from the
one that refuses everything, once for each step down that the text can make.
-/
import ProcessBuild.Source.Grammar.Item
import ProcessBuild.Source.Lexer

namespace ProcessBuild.Source

/-- the rules, referring to the rules of one depth less -/
def Grammar.step (r : Rules) : Rules where
  type := Grammar.typeRule r
  arguments := Grammar.angleArguments r
  bound := Grammar.boundRule r
  pattern := Grammar.patternRule r
  expr := Grammar.exprRule r
  operand := Grammar.operandRule r
  operators := Grammar.operatorsRule r
  statementExpr := Grammar.statementExprRule r
  statements := Grammar.statementsRule r
  item := Grammar.itemRule r
  itemBody := Grammar.itemBodyRule r
  useTree := Grammar.useTreeRule r

/-- the rules of a depth; each part is made when it is used -/
def Grammar.upTo : Nat → Rules
  | 0 => default
  | n + 1 => {
    type := fun plus s => (Grammar.step (Grammar.upTo n)).type plus s
    arguments := fun s => (Grammar.step (Grammar.upTo n)).arguments s
    bound := fun captures constant s => (Grammar.step (Grammar.upTo n)).bound captures constant s
    pattern := fun s => (Grammar.step (Grammar.upTo n)).pattern s
    expr := fun structs s => (Grammar.step (Grammar.upTo n)).expr structs s
    operand := fun structs s => (Grammar.step (Grammar.upTo n)).operand structs s
    operators := fun structs p e s => (Grammar.step (Grammar.upTo n)).operators structs p e s
    statementExpr := fun s => (Grammar.step (Grammar.upTo n)).statementExpr s
    statements := fun s => (Grammar.step (Grammar.upTo n)).statements s
    item := fun s => (Grammar.step (Grammar.upTo n)).item s
    itemBody := fun s => (Grammar.step (Grammar.upTo n)).itemBody s
    useTree := fun root s => (Grammar.step (Grammar.upTo n)).useTree root s }

/-- a depth that no text of so many trees exceeds: a few steps down for each of them -/
def Grammar.depthFor (trees : List Tree) : Nat := 8 * (Tree.countAll trees + 2)

/-- the items of a file after its attributes -/
def fileItems (r : Rules) : Parser (List Item) := do
  Grammar.innerAttributes r
  Parser.toEnd r.item

/-- the items of the trees of a file; what was left in a group is a fault when all else is read -/
def itemsOf (trees : List Tree) : Except SyntaxFault (List Item) :=
  match fileItems (Grammar.upTo (Grammar.depthFor trees)) ⟨trees, none, none⟩ with
  | .error e => .error e
  | .ok (items, s) =>
    match s.leftover with
    | some e => .error e
    | none => .ok items

/-! ## Files -/

/-- a place in a text by line and column, both from one -/
structure LineColumn where
  line : Nat
  column : Nat
  deriving DecidableEq, Repr

/-- the line and column after some characters -/
def lineColumnFrom (line column : Nat) : Nat → List Char → LineColumn
  | 0, _ => ⟨line, column⟩
  | _ + 1, [] => ⟨line, column⟩
  | n + 1, c :: r => if c = '\n' then lineColumnFrom (line + 1) 1 n r else lineColumnFrom line (column + 1) n r

def byteOrderMark : Char := '\ufeff'

/-- a text without a byte order mark at its front, and the width of the mark -/
def dropMark : List Char → List Char × Nat
  | [] => ([], 0)
  | c :: r => if c = byteOrderMark then (r, 1) else (c :: r, 0)

/-- a text without a first line that names an interpreter; the end of that line stays -/
def dropInterpreter (s : List Char) : List Char :=
  match s with
  | '#' :: '!' :: r =>
    if (r.drop (Lexer.gapWidth (r.length + 1) r)).head? = some '[' then s else s.dropWhile (· != '\n')
  | _ => s

structure FileFault where
  place : LineColumn
  fault : SyntaxFault
  deriving DecidableEq

def readFile (content : String) : Except FileFault (List Item) :=
  let text := dropInterpreter (dropMark content.toList).1
  let (body, shift) := dropMark text
  let located (place : Option Nat) : LineColumn :=
    match place with
    | none => ⟨1, 1⟩
    | some n => lineColumnFrom 1 1 (n + shift) text
  match Lexer.trees body with
  | .error place => .error ⟨located (some place), ⟨some place, false, .noTokens⟩⟩
  | .ok trees => (itemsOf trees).mapError fun f => ⟨located f.place, f⟩

end ProcessBuild.Source
