/-
Metadata on its way from a JSON object to generated code. Reading the object loses nothing, and each entry that code can
carry becomes one statement `target.method(key, value);`, from whose text the key and the value are read back: a truth
value, a string, or an integer with the least type that holds it.
- `valueArgument_ofJson`: what a JSON value is written as.
- `ofText_call`: the statement of one entry is read back from its text.
- `metadata_survives`: the statements of a whole object.
-/
import ProcessBuild.Proofs.Builder.Spelling
import ProcessBuild.Proofs.Process.Fields
import ProcessBuild.Proofs.Source.LiteralValue
import ProcessBuild.Translation.Declaration

namespace ProcessBuild

open Source (Constant IntegerType)

/-- the constant that a JSON value stands for in generated code; other values stand for none -/
def Json.constant? : Json → Option Constant
  | .bool b => some (.flag b)
  | .string s => some (.text s)
  | .number (.int i) =>
    if IntegerType.int32.holds i then some (.integer .int32 i)
    else if IntegerType.int64.holds i then some (.integer .int64 i)
    else none
  | _ => none

/-- the entries of an object that generated code can carry, in their order -/
def Json.constantEntries (object : NameMap Json) : List (String × Constant) :=
  object.entries.filterMap fun e => e.2.constant?.map fun value => (e.1, value)

theorem Json.ascending_constantEntries (object : NameMap Json) :
    (constantEntries object).Pairwise fun a b => a.1 < b.1 := by
  refine object.ascending.filterMap _ fun a b below x made y makes => ?_
  obtain ⟨_, -, rfl⟩ := Option.map_eq_some_iff.1 made
  obtain ⟨_, -, rfl⟩ := Option.map_eq_some_iff.1 makes
  exact below

/-- the metadata of an object, value by value -/
def Metadata.ofObject (object : NameMap Json) : Metadata :=
  ⟨object.entries.map fun e => (e.1, MetadataValue.ofJson e.2), object.ascending.map _ fun _ _ below => below⟩

theorem Metadata.toJson_ofObject (object : NameMap Json) : (ofObject object).toJson = .object object.entries := by
  unfold toJson ofObject
  rw [List.map_map]
  refine congrArg Json.object ((List.map_congr_left fun e _ => ?_).trans (List.map_id _))
  exact Prod.ext rfl (MetadataValue.toJson_ofJson e.2)

/-- **Every object is read** as metadata. -/
theorem Metadata.ofJson_object (object : NameMap Json) : ofJson (.object object.entries) = .ok (ofObject object) := by
  have readBack : (ofObject object).ReadBack id := by
    intro e he
    obtain ⟨member, -, rfl⟩ := List.mem_map.1 he
    exact congrArg MetadataValue.ofJson (MetadataValue.toJson_ofJson member.2)
  rw [← toJson_ofObject]
  exact read_toJson Json.arranges_id readBack

namespace Translation

open Builder Source Lexer

/-! ## Values -/

/-- **A JSON value** is written as the constant that it stands for, or left out if it stands for none. -/
theorem valueArgument_ofJson (v : Json) :
    (v.constant? = none ∧ valueArgument (.ofJson v) = none) ∨
      ∃ value a, v.constant? = some value ∧ valueArgument (.ofJson v) = some a ∧ a.Spells ∧
        constant? a.tokens = some value := by
  cases v with
  | null => exact Or.inl ⟨rfl, rfl⟩
  | bool b => exact Or.inr ⟨_, .flag b, rfl, rfl, trivial, constant_flag b⟩
  | string s => exact Or.inr ⟨_, .text s, rfl, rfl, trivial, constant_string s⟩
  | array items => exact Or.inl ⟨rfl, rfl⟩
  | object members => exact Or.inl ⟨rfl, rfl⟩
  | number n =>
    cases n with
    | float x => exact Or.inl ⟨rfl, rfl⟩
    | int i =>
      have short : IntegerType.int32.holds i = true ↔ -0x80000000 ≤ i ∧ i < 0x80000000 := by
        simp [IntegerType.holds]
      have long : IntegerType.int64.holds i = true ↔ -0x8000000000000000 ≤ i ∧ i < 0x8000000000000000 := by
        simp [IntegerType.holds]
      -- the type is decided by the range of the integer on both sides, the smaller type first
      by_cases fits : IntegerType.int32.holds i = true
      · have value : (Int32.ofInt i).toInt = i := Int32.toInt_ofInt_of_le (short.1 fits).1 (by have := short.1 fits; omega)
        have kind : MetadataValue.ofJson (.number (.int i)) = .integer (Int32.ofInt i) := if_pos (short.1 fits)
        refine Or.inr ⟨_, .int32 (Int32.ofInt i), if_pos fits, by rw [kind]; rfl, trivial, ?_⟩
        rw [Argument.tokens, value]
        exact constant_integer fits
      · by_cases fitsLong : IntegerType.int64.holds i = true
        · have value : (Int64.ofInt i).toInt = i :=
            Int64.toInt_ofInt_of_le (long.1 fitsLong).1 (by have := long.1 fitsLong; omega)
          have kind : MetadataValue.ofJson (.number (.int i)) = .long (Int64.ofInt i) :=
            (if_neg (mt short.2 fits)).trans (if_pos (long.1 fitsLong))
          refine Or.inr ⟨_, .int64 (Int64.ofInt i), (if_neg fits).trans (if_pos fitsLong), by rw [kind]; rfl, trivial, ?_⟩
          rw [Argument.tokens, value]
          exact constant_integer fitsLong
        · have kind : MetadataValue.ofJson (.number (.int i)) = .other (.number (.int i)) :=
            (if_neg (mt short.2 fits)).trans (if_neg (mt long.2 fitsLong))
          exact Or.inl ⟨(if_neg fits).trans (if_neg fitsLong), by rw [kind]; rfl⟩

/-! ## Statements -/

/-- a statement `target.method(key, value);` -/
structure EntryCall where
  target : String
  method : String
  key : String
  value : Constant
  deriving DecidableEq, Repr

/-- the call that the tokens of a statement make -/
def EntryCall.ofTokens? : List Token → Option EntryCall
  | [.word target, .punct '.' _, .word method, .group .parenthesis (.literal key :: .punct ',' _ :: value),
      .punct ';' _] => do
    return ⟨target, method, ← stringValue key, ← constant? value⟩
  | _ => none

/-- the call that the text of a statement makes -/
def EntryCall.ofText? (source : String) : Option EntryCall :=
  match trees source.toList with
  | .ok read => ofTokens? (Tree.tokens read)
  | .error _ => none

section Calls

variable {target method : String} (isTarget : IsIdentifier target.toList) (isMethod : IsIdentifier method.toList)

include isTarget isMethod

/-- **The statement of an entry** is read back from its text. -/
theorem ofText_call (key : String) {a : Argument} (spells : a.Spells) {value : Constant}
    (read : constant? a.tokens = some value) :
    EntryCall.ofText? (text (Statement.call target method [.text key, a]).tokens) =
      some ⟨target, method, key, value⟩ := by
  have arguments : Printable (Token.separated ([.text key, a].map Argument.tokens)) :=
    printable_separated (List.forall_mem_cons.2 ⟨printable_string key, List.forall_mem_singleton.2
      (printable_argument spells)⟩)
  obtain ⟨read', lexed, tokens⟩ := trees_text (printable_methodCall isTarget isMethod arguments)
  unfold EntryCall.ofText?
  rw [Statement.tokens, lexed]
  simp only [tokens]
  show ((stringValue (Text.literal key)).bind fun k => (constant? a.tokens).bind fun v =>
    some (EntryCall.mk target method k v)) = _
  rw [stringValue_literal, read]
  rfl

theorem ofText_entryCalls (entries : List (String × Json)) :
    (((entries.map fun e => (e.1, MetadataValue.ofJson e.2)).filterMap fun e =>
        (valueArgument e.2).map fun value => Statement.call target method [.text e.1, value]).map fun s =>
          EntryCall.ofText? (text s.tokens)) =
      (entries.filterMap fun e => e.2.constant?.map fun value => (e.1, value)).map fun e =>
        some ⟨target, method, e.1, e.2⟩ := by
  induction entries with
  | nil => rfl
  | cons e rest ih =>
    rcases valueArgument_ofJson e.2 with ⟨noConstant, noArgument⟩ | ⟨value, a, isConstant, isArgument, spells, read⟩
    · simp only [List.map_cons, List.filterMap_cons, noConstant, noArgument, Option.map_none]
      exact ih
    · simp only [List.map_cons, List.filterMap_cons, isConstant, isArgument, Option.map_some,
        ofText_call isTarget isMethod e.1 spells read, ih]

end Calls

/-- **Metadata survives from JSON to code with its kind.** Every object is read as metadata, and writing the metadata gives
the object back. The statements for it, whatever words the target and the method are, are read back as one call for
each entry whose value is a truth value, a string or an integer of 64 bits, in ascending key order, with the same value;
an integer has the type of 32 bits exactly when that type holds it. Entries with other values make no statement. -/
theorem metadata_survives {target method : String} (isTarget : IsWord target.toList) (isMethod : IsWord method.toList)
    (object : NameMap Json) : ∃ m, Metadata.ofJson (.object object.entries) = .ok m ∧ m.toJson = .object object.entries ∧
      ((entryCalls target method m).map fun s => EntryCall.ofText? (text s.tokens)) =
        ((Json.constantEntries object).map fun e => some ⟨target, method, e.1, e.2⟩) ∧
      (Json.constantEntries object).Pairwise fun a b => a.1 < b.1 :=
  ⟨Metadata.ofObject object, Metadata.ofJson_object object, Metadata.toJson_ofObject object,
    ofText_entryCalls (.inl isTarget) (.inl isMethod) object.entries, Json.ascending_constantEntries object⟩

/-- an object with values of every kind, with integers at both ends of both types and right outside of them -/
def mixedObject : NameMap Json := ⟨[
  ("a", .bool true), ("b", .string "\"\u00e9\"\n\x00"), ("c", .ofInt (-2147483648)), ("d", .ofInt 2147483648),
  ("e", .ofInt (-9223372036854775808)), ("f", .ofInt 9223372036854775808), ("g", .number (.float ⟨0x3ff0000000000000⟩)),
  ("h", .null), ("i", .array []), ("j", .object [])], by decide⟩

/-- **The metadata of `mixedObject`** survives, on a target of another script. -/
theorem mixedObject_survives :
    IsWord "größe".toList ∧ IsWord "metadata".toList ∧
    (∃ m, Metadata.ofJson (.object mixedObject.entries) = .ok m ∧ m.toJson = .object mixedObject.entries ∧
      ((entryCalls "größe" "metadata" m).map fun s => EntryCall.ofText? (text s.tokens)) =
        ((Json.constantEntries mixedObject).map fun e => some ⟨"größe", "metadata", e.1, e.2⟩) ∧
      (Json.constantEntries mixedObject).Pairwise fun a b => a.1 < b.1) ∧
    Json.constantEntries mixedObject = [
      ("a", .flag true), ("b", .text "\"\u00e9\"\n\x00"), ("c", .integer .int32 (-2147483648)),
      ("d", .integer .int64 2147483648), ("e", .integer .int64 (-9223372036854775808))] := by
  have isTarget : IsWord "größe".toList := ⟨forall_chars (by decide +kernel), _, _, rfl, by decide +kernel⟩
  have isMethod : IsWord "metadata".toList := ⟨forall_chars (by decide), _, _, rfl, by decide⟩
  exact ⟨isTarget, isMethod, metadata_survives isTarget isMethod mixedObject, by decide⟩

end Translation
end ProcessBuild
