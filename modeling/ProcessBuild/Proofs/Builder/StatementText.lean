/-
Reading builder statements from their tokens. An argument is read by its form: a path, a call, or a literal with its
suffix. Statements are read one after the other up to the one that gives back the process.
- `ofTokens?_tokens`: each argument is read back from its tokens.
- `statementsOf?_tokens`: so are the statements of a body, with the builder that gives back the process.
-/
import ProcessBuild.Proofs.Builder.Spelling
import ProcessBuild.Proofs.Source.LiteralValue
import ProcessBuild.Proofs.Source.Parts

namespace ProcessBuild.Builder

open Source Text

/-! ## Reading arguments -/

/-- the number of a node, written with the suffix of 64 bits without a sign -/
def nodeId? (text : String) : Option NodeId :=
  let n := Nat.ofDigitChars 10 (text.toList.takeWhile isDigit) 0
  if text.toList.dropWhile isDigit = ['u', '6', '4'] ∧ n < UInt64.size then some (UInt64.ofNat n) else none

/-- the gateway type of a name -/
def gateway? : String → Option Gateway
  | "Xor" => some .xor
  | "And" => some .and
  | "Or" => some .or
  | _ => none

def Argument.ofConstant : Constant → Argument
  | .flag b => .flag b
  | .text s => .text s
  | .integer .int32 i => .int32 (Int32.ofInt i)
  | .integer .int64 i => .int64 (Int64.ofInt i)

/-- the data type of a type name and the class loader that resolves it -/
def dataType? : List (List Token) → Option Argument
  | [[.literal name], [.word type, .punct ':' true, .punct ':' false, .word "class_loader", .group .parenthesis []]] =>
    (stringValue name).map fun s => .dataType s [type]
  | _ => none

def Argument.ofTokens? : List Token → Option Argument
  | [.word "None"] => some (.optionalText none)
  | [.word "Some", .group .parenthesis [.literal written]] => (stringValue written).map fun s => .optionalText (some s)
  | [.word "GatewayType", .punct ':' true, .punct ':' false, .word name] => (gateway? name).map .gateway
  | [.word "ObjectDataType", .punct ':' true, .punct ':' false, .word "new", .group .parenthesis inner] =>
    dataType? (parts inner)
  | [.literal written] =>
    match nodeId? written with
    | some id => some (.node id)
    | none => (constant? [.literal written]).map ofConstant
  | tokens => (constant? tokens).map ofConstant

theorem ofDigitChars_toString (n : Nat) : Nat.ofDigitChars 10 (toString n).toList 0 = n := by
  have decimal : (toString n).toList = Nat.toDigits 10 n := Nat.toList_repr
  rw [decimal]
  exact Nat.ofDigitChars_toDigits (by decide) (by decide)

theorem nodeId?_number (id : NodeId) : nodeId? (toString id.toNat ++ "u64") = some id := by
  have digits : ∀ d ∈ (toString id.toNat).toList, isDigit d = true := fun d hd => isDigit_of_mem_toString hd
  have spelled : (toString id.toNat ++ "u64").toList = (toString id.toNat).toList ++ 'u' :: ['6', '4'] :=
    String.toList_append
  obtain ⟨number, suffix⟩ := takeWhile_digits ['6', '4'] digits (c := 'u') rfl
  unfold nodeId?
  rw [spelled, number, suffix, ofDigitChars_toString]
  exact (if_pos ⟨rfl, id.toNat_lt⟩).trans (congrArg some (UInt64.ofNat_toNat))

theorem nodeId?_integer (n : Nat) (type : IntegerType) : nodeId? (toString n ++ type.suffix) = none := by
  have digits : ∀ d ∈ (toString n).toList, isDigit d = true := fun d hd => isDigit_of_mem_toString hd
  have other : type.suffix.toList ≠ ['u', '6', '4'] := by cases type <;> decide
  have kept : type.suffix.toList.dropWhile isDigit = type.suffix.toList := by cases type <;> rfl
  unfold nodeId?
  rw [String.toList_append, List.dropWhile_append_of_pos digits, kept]
  exact if_neg fun h => other h.1

theorem nodeId?_string (s : String) : nodeId? (Text.literal s) = none := by
  have spelled : (Text.literal s).toList = '"' :: (literalBody s.toList ++ ['"']) := String.toList_ofList
  unfold nodeId?
  rw [spelled]
  exact if_neg fun h => nomatch h.1

/-- an integer is read back from its tokens, unlike the number of a node -/
theorem ofTokens?_integer {type : IntegerType} {i : Int} (holds : type.holds i = true) :
    Argument.ofTokens? (integerTokens i type.suffix) = some (.ofConstant (.integer type i)) := by
  have read := constant_integer holds
  unfold integerTokens at read ⊢
  split at read
  · rename_i sign
    rw [if_pos sign]
    exact congrArg (Option.map Argument.ofConstant) read
  · rename_i sign
    rw [if_neg sign, List.nil_append, Argument.ofTokens?, nodeId?_integer]
    exact congrArg (Option.map Argument.ofConstant) read

theorem isPart_singleton {t : Token} (h : t.isComma = false) : IsPart [t] :=
  ⟨List.cons_ne_nil _ _, List.forall_mem_singleton.2 h⟩

/-- **Arguments are read back** from their tokens. -/
theorem ofTokens?_tokens {a : Argument} (h : a.Spells) : Argument.ofTokens? a.tokens = some a := by
  cases a with
  | text s =>
    rw [Argument.tokens, Token.string, Argument.ofTokens?, nodeId?_string]
    exact congrArg (Option.map Argument.ofConstant) (constant_string s)
  | flag b => cases b <;> rfl
  | int32 i =>
    have holds : IntegerType.int32.holds i.toInt = true := by
      have low := i.le_toInt
      have high := i.toInt_lt
      simp [IntegerType.holds]
      omega
    rw [Argument.tokens]
    refine (ofTokens?_integer holds).trans ?_
    rw [Argument.ofConstant, Int32.ofInt_toInt]
  | int64 i =>
    have holds : IntegerType.int64.holds i.toInt = true := by
      have low := i.le_toInt
      have high := i.toInt_lt
      simp [IntegerType.holds]
      omega
    rw [Argument.tokens]
    refine (ofTokens?_integer holds).trans ?_
    rw [Argument.ofConstant, Int64.ofInt_toInt]
  | node id => rw [Argument.tokens, Argument.ofTokens?, nodeId?_number]
  | optionalText s =>
    cases s with
    | none => rfl
    | some s => exact congrArg (Option.map fun s => Argument.optionalText (some s)) (stringValue_literal s)
  | gateway g => cases g <;> rfl
  | dataType typeName scope =>
    obtain ⟨type, rfl, -⟩ := h
    have loader : IsPart (Token.path [type, "class_loader"] ++ [Token.parens []]) :=
      ⟨List.cons_ne_nil _ _, by simp [Token.path, Token.pathSeparator, Token.isComma, Token.parens]⟩
    have read : Argument.ofTokens? (Argument.dataType typeName [type]).tokens = dataType?
        (parts (Token.separated [[.string typeName], Token.path [type, "class_loader"] ++ [Token.parens []]])) := rfl
    rw [read, parts_separated (List.forall_mem_cons.2 ⟨isPart_singleton rfl, List.forall_mem_singleton.2 loader⟩)]
    exact congrArg (Option.map fun s => Argument.dataType s [type]) (stringValue_literal typeName)

/-! ## Reading statements -/

/-- the statements of the body of `build` once the factory is open, and the builder that gives back the process -/
def statementsOf? : List Token → Option (List Statement × String)
  | [.word target, .punct '.' false, .word method, .group .parenthesis inner] =>
    if method = "get_process" ∧ inner.isEmpty then some ([], target) else none
  | .word keyword :: .word name :: .punct '=' false :: .word target :: .punct '.' false :: .word method ::
      .group .parenthesis [.literal number] :: .punct ';' false :: rest => do
    guard (keyword = "let")
    let id ← nodeId? number
    let (statements, result) ← statementsOf? rest
    return (.bind name target method id :: statements, result)
  | .word target :: .punct '.' false :: .word method :: .group .parenthesis inner :: .punct ';' false :: rest => do
    let arguments ← (parts inner).mapM Argument.ofTokens?
    let (statements, result) ← statementsOf? rest
    return (.call target method arguments :: statements, result)
  | _ => none

/-- an argument has no comma outside its groups -/
theorem isPart_argument {a : Argument} (h : a.Spells) : IsPart a.tokens := by
  have number : ∀ (i : Int) (suffix : String), IsPart (integerTokens i suffix) := by
    intro i suffix
    unfold integerTokens
    split
    · exact ⟨List.cons_ne_nil _ _, List.forall_mem_cons.2 ⟨rfl, List.forall_mem_singleton.2 rfl⟩⟩
    · exact isPart_singleton rfl
  cases a with
  | text s => exact isPart_singleton rfl
  | flag b => exact isPart_singleton rfl
  | int32 i => exact number _ _
  | int64 i => exact number _ _
  | node id => exact isPart_singleton rfl
  | optionalText s =>
    cases s with
    | none => exact isPart_singleton rfl
    | some s => exact ⟨List.cons_ne_nil _ _, List.forall_mem_cons.2 ⟨rfl, List.forall_mem_singleton.2 rfl⟩⟩
  | gateway g => exact ⟨List.cons_ne_nil _ _, by simp [Argument.tokens, Token.path, Token.pathSeparator, Token.isComma]⟩
  | dataType typeName scope =>
    exact ⟨List.cons_ne_nil _ _, by simp [Argument.tokens, Token.path, Token.pathSeparator, Token.isComma, Token.parens]⟩

/-- the arguments of a call are read back -/
theorem mapM_ofTokens? {arguments : List Argument} (h : ∀ a ∈ arguments, a.Spells) :
    (parts (Token.separated (arguments.map Argument.tokens))).mapM Argument.ofTokens? = some arguments :=
  (mapM_parts (fun a ha => isPart_argument (h a ha)) fun a ha => ofTokens?_tokens (h a ha)).trans
    (congrArg some (List.map_id _))

/-- **The statements of a body are read back** from their tokens. -/
theorem statementsOf?_tokens {statements : List Statement} (h : ∀ s ∈ statements, s.Spells) (result : String) :
    statementsOf? (tokensOf statements ++ [.word result, .mark '.', .word "get_process", .parens []]) =
      some (statements, result) := by
  induction statements with
  | nil => rfl
  | cons s rest ih =>
    have others := ih fun x hx => h x (List.mem_cons_of_mem s hx)
    have spells := h s List.mem_cons_self
    rw [tokensOf, List.flatMap_cons, List.append_assoc]
    cases s with
    | bind name target method id =>
      show ((nodeId? (toString id.toNat ++ "u64")).bind fun id => (statementsOf? (tokensOf rest ++ _)).bind fun read =>
        some (Statement.bind name target method id :: read.1, read.2)) = _
      rw [nodeId?_number, others]
      rfl
    | call target method arguments =>
      show (((parts (Token.separated (arguments.map Argument.tokens))).mapM Argument.ofTokens?).bind fun read =>
        (statementsOf? (tokensOf rest ++ _)).bind fun others =>
          some (Statement.call target method read :: others.1, others.2)) = _
      rw [mapM_ofTokens? spells.2.2, others]
      rfl

end ProcessBuild.Builder
