/-
Builder statements as source text. A statement whose names are identifiers is spelled in tokens that are read back from
their text and that the grammar reads as one statement, whatever texts its arguments carry.
- `printable_statement`: its tokens are read back from their text.
- `isStatement_statement`: they are one statement.
-/
import ProcessBuild.Builder.Statement
import ProcessBuild.Proofs.Source.Identifiers
import ProcessBuild.Proofs.Source.Statements

namespace ProcessBuild.Builder

open Source Grammar Lexer

/-! ## Arguments -/

/-- an argument that names nothing but identifiers; texts are free -/
def Argument.Spells : Argument → Prop
  | dataType _ scope => ∃ type, scope = [type] ∧ Identifier type
  | _ => True

theorem printable_integer (i : Int) {suffix : String} {more : List Char} (name : IsName suffix.toList)
    (front : suffix.toList = 'i' :: more) : Printable (integerTokens i suffix) := by
  have number := printable_literal (isLiteral_number (n := i.natAbs) name front startsSuffix_signed)
  unfold integerTokens
  split
  · exact (printable_mark rfl).append number
  · exact number

theorem isOperand_integer (i : Int) (suffix : String) : IsOperand 2 (integerTokens i suffix) := by
  unfold integerTokens
  split
  · exact isOperand_negative _
  · exact (isOperand_literal _).mono (by decide)

/-- the tokens of a data type in the words of the grammar: a call with a text and a call as its arguments -/
theorem tokens_dataType (typeName type : String) :
    (Argument.dataType typeName [type]).tokens = Token.path ["ObjectDataType", "new"] ++
      [Token.parens (Token.separated [[.string typeName], Token.path [type, "class_loader"] ++
        [Token.parens (Token.separated [])]])] :=
  rfl

def argumentWords : List String := [
  "None", "Some", "true", "false", "GatewayType", "Xor", "And", "Or", "ObjectDataType", "new", "class_loader"]

theorem isName_word : ∀ w ∈ argumentWords, IsName w.toList := by
  have text : ∀ w ∈ argumentWords, isNameText w = true := by decide
  exact fun w hw => isName_of_text (text w hw)

/-- **Arguments are read back from their text.** -/
theorem printable_argument {a : Argument} (h : a.Spells) : Printable a.tokens := by
  cases a with
  | text s => exact printable_string s
  | flag b =>
    cases b with
    | true => exact printable_word (isName_word _ (by decide))
    | false => exact printable_word (isName_word _ (by decide))
  | int32 i => exact printable_integer _ (isName_of_text rfl) rfl
  | int64 i => exact printable_integer _ (isName_of_text rfl) rfl
  | node id =>
    have literal : IsLiteral (toString id.toNat ++ "u64") :=
      isLiteral_number (isName_of_text rfl) rfl startsSuffix_unsigned
    exact printable_literal literal
  | optionalText s =>
    cases s with
    | none => exact printable_word (isName_word _ (by decide))
    | some s => exact (printable_word (isName_word _ (by decide))).append (printable_group (printable_string s))
  | gateway g =>
    refine printable_path fun w hw => isName_word w ?_
    cases g with
    | xor => revert w; decide
    | and => revert w; decide
    | or => revert w; decide
  | dataType typeName scope =>
    obtain ⟨type, rfl, identifier⟩ := h
    rw [tokens_dataType]
    refine (printable_path fun w hw => isName_word w (by revert w; decide)).append (printable_group ?_)
    refine printable_separated (List.forall_mem_cons.2 ⟨printable_string typeName, List.forall_mem_singleton.2 ?_⟩)
    refine (printable_path (List.forall_mem_cons.2 ⟨identifier.name, List.forall_mem_singleton.2 ?_⟩)).append
      (printable_group (printable_nil.2 trivial))
    exact isName_word _ (by decide)

/-- **Arguments are operands.** -/
theorem isOperand_argument {a : Argument} (h : a.Spells) : IsOperand 5 a.tokens := by
  cases a with
  | text s => exact (isOperand_literal _).mono (by decide)
  | flag b => exact (isOperand_flag b).mono (by decide)
  | int32 i => exact (isOperand_integer _ _).mono (by decide)
  | int64 i => exact (isOperand_integer _ _).mono (by decide)
  | node id => exact (isOperand_literal _).mono (by decide)
  | optionalText s =>
    cases s with
    | none =>
      have path : IsOperand 1 (Token.path ["None"]) := isOperand_path (by decide)
      exact path.mono (by decide)
    | some s =>
      have call : IsOperand 3 (Token.path ["Some"] ++ [Token.parens (Token.separated [[.string s]])]) :=
        isOperand_call (by decide) (List.forall_mem_singleton.2 (isOperand_literal _)) Nat.one_pos
      exact call.mono (by decide)
  | gateway g =>
    cases g with
    | xor => exact (isOperand_path (by decide)).mono (by decide)
    | and => exact (isOperand_path (by decide)).mono (by decide)
    | or => exact (isOperand_path (by decide)).mono (by decide)
  | dataType typeName scope =>
    obtain ⟨type, rfl, identifier⟩ := h
    have loader : IsOperand 3 (Token.path [type, "class_loader"] ++ [Token.parens (Token.separated [])]) :=
      isOperand_call (List.forall_mem_cons.2 ⟨identifier.free, by decide⟩) (fun _ h => nomatch h) Nat.one_pos
    rw [tokens_dataType]
    exact isOperand_call (by decide)
      (List.forall_mem_cons.2 ⟨(isOperand_literal _).mono (by decide), List.forall_mem_singleton.2 loader⟩) (by decide)

/-! ## Statements -/

/-- a statement whose names are identifiers -/
def Statement.Spells : Statement → Prop
  | bind name target method _ => Identifier name ∧ Identifier target ∧ Identifier method
  | call target method arguments => Identifier target ∧ Identifier method ∧ ∀ a ∈ arguments, a.Spells

theorem printable_methodCall {target method : String} {ts : List Token} (isTarget : IsIdentifier target.toList)
    (isMethod : IsIdentifier method.toList) (h : Printable ts) :
    Printable [.word target, .mark '.', .word method, .parens ts, .mark ';'] :=
  (printable_identifier isTarget).append ((printable_mark rfl).append ((printable_identifier isMethod).append
    ((printable_group h).append (printable_mark rfl))))

/-- **Statements are read back from their text.** -/
theorem printable_statement {s : Statement} (h : s.Spells) : Printable s.tokens := by
  cases s with
  | bind name target method id =>
    obtain ⟨isName, isTarget, isMethod⟩ := h
    exact (printable_word (w := "let") ⟨forall_chars (by decide), _, _, rfl, by decide⟩).append
        ((printable_word isName.name).append
      ((printable_mark rfl).append (printable_methodCall (isIdentifier_of_isName isTarget.name) (isIdentifier_of_isName isMethod.name)
        (printable_argument (a := .node id) trivial))))
  | call target method arguments =>
    obtain ⟨isTarget, isMethod, spell⟩ := h
    refine printable_methodCall (isIdentifier_of_isName isTarget.name) (isIdentifier_of_isName isMethod.name)
      (printable_separated fun ts hts => ?_)
    obtain ⟨a, ha, rfl⟩ := List.mem_map.1 hts
    exact printable_argument (spell a ha)

/-- **Statements are read as statements.** -/
theorem isStatement_statement {s : Statement} (h : s.Spells) : IsStatement 8 s.tokens := by
  cases s with
  | bind name target method id =>
    obtain ⟨isName, isTarget, isMethod⟩ := h
    have arguments : ∀ ts ∈ [(Argument.node id).tokens], IsOperand 5 ts :=
      List.forall_mem_singleton.2 (isOperand_argument (a := .node id) trivial)
    exact isStatement_let isName.free (isOperand_methodCall isTarget.free isMethod.free arguments (by decide)) (by decide)
  | call target method arguments =>
    obtain ⟨isTarget, isMethod, spell⟩ := h
    have operands : ∀ ts ∈ arguments.map Argument.tokens, IsOperand 5 ts := by
      intro ts hts
      obtain ⟨a, ha, rfl⟩ := List.mem_map.1 hts
      exact isOperand_argument (spell a ha)
    exact isStatement_word isTarget.free (isOperand_methodCall isTarget.free isMethod.free operands
      (by decide)) (by decide)

theorem printable_statements {statements : List Statement} (h : ∀ s ∈ statements, s.Spells) :
    Printable (tokensOf statements) := printable_flatMap fun s hs => printable_statement (h s hs)

end ProcessBuild.Builder
