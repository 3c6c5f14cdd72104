/-
Which values a schema admits, under the rules of its edition. All keywords of a schema have to admit the value, and one
that is about another kind of values says nothing; next to a reference no other keyword counts. The names of ranges,
meanings and defaults are notes and constrain nothing. Definitions refer to each other without end, so references are
followed to a depth, and the verdict is what a schema says from some depth on.
- `Judges.unique`: a schema gives one verdict on a value.
- `judges_reference_iff`: a reference gives the verdict of its definition.
- `judges_mk_iff`: a schema without a reference admits what each of its keywords allows;
  what a keyword allows is a lemma for `simp`.
- `allows_oneOf`: one of several schemas, where the verdicts of all of them are known.
- `judges_false_of_property`: a schema refuses an object for one member that it has a schema for.
-/
import Mathlib.Algebra.Order.Ring.Rat
import Mathlib.Data.Set.Finite.Basic
import Mathlib.Order.Filter.AtTopBot.Basic
import Mathlib.Order.Filter.Finite
import ProcessBuild.Json.Schema

namespace ProcessBuild

/-! ## Numbers and types -/

/-- the number that is written -/
def JsonNumber.value : JsonNumber → ℚ
  | .int i => i
  | .float x => (if x.negative then -1 else 1) * (x.ratio.1 / x.ratio.2)

/-- whether a value is of a type; a number without a fractional part is an integer, however it is written -/
def JsonType.admits : JsonType → Json → Bool
  | null, .null => true
  | boolean, .bool _ => true
  | integer, .number n => n.value.isInt
  | string, .string _ => true
  | array, .array _ => true
  | object, .object _ => true
  | _, _ => false

namespace JsonType

@[simp]
theorem boolean_admits (b : Bool) : boolean.admits (.bool b) = true := rfl

@[simp]
theorem integer_admits (i : ℤ) : integer.admits (.number (.int i)) = true := by
  show (i : ℚ).isInt = true
  simp [Rat.isInt]

@[simp]
theorem string_admits (s : String) : string.admits (.string s) = true := rfl

@[simp]
theorem array_admits (xs : List Json) : array.admits (.array xs) = true := rfl

@[simp]
theorem object_admits (ms : List (String × Json)) : object.admits (.object ms) = true := rfl

end JsonType

/-! ## Keywords -/

/-- the definition that a keyword refers to -/
def Keyword.referent? : Keyword → Option String
  | definition name => some name
  | _ => none

/-- the members that a keyword has schemas for -/
def Keyword.named : Keyword → List String
  | properties schemas => schemas.map Prod.fst
  | _ => []

section Admits

variable (admitsBy : String → Json → Bool)

mutual

/-- whether a schema admits a value, when it is known which values the definitions admit; next to a reference no other
keyword counts -/
def Schema.admits : Schema → Json → Bool
  | .mk keywords, v =>
    match keywords.findSome? Keyword.referent? with
    | some name => admitsBy name v
    | none => Keyword.allAdmit (keywords.flatMap Keyword.named) keywords v

/-- whether all keywords of a schema admit a value -/
def Keyword.allAdmit (known : List String) : List Keyword → Json → Bool
  | [], _ => true
  | k :: rest, v => k.admits known v && Keyword.allAdmit known rest v

/-- whether a keyword admits a value; one that is about another kind of values says nothing about it -/
def Keyword.admits (known : List String) : Keyword → Json → Bool
  | .description _, _ => true
  | .default _, _ => true
  | .format _, _ => true
  | .types types, v => types.any fun t => t.admits v
  | .oneText texts, .string s => texts.contains s
  | .oneText _, _ => false
  | .minimum bound, .number n => bound.value ≤ n.value
  | .minimum _, _ => true
  | .properties schemas, .object ms => Schema.propertiesAdmit schemas ms
  | .properties _, _ => true
  | .required names, .object ms => names.all fun name => ms.any fun m => m.1 = name
  | .required _, _ => true
  | .otherProperties s, .object ms => ms.all fun m => known.contains m.1 || s.admits m.2
  | .otherProperties _, _ => true
  | .items s, .array xs => xs.all fun x => s.admits x
  | .items _, _ => true
  | .allOf schemas, v => (Schema.verdicts schemas v).all fun verdict => verdict
  | .anyOf schemas, v => (Schema.verdicts schemas v).any fun verdict => verdict
  | .oneOf schemas, v => (Schema.verdicts schemas v).count true = 1
  | .definition name, v => admitsBy name v

/-- what each of several schemas says of a value -/
def Schema.verdicts : List Schema → Json → List Bool
  | [], _ => []
  | s :: rest, v => s.admits v :: Schema.verdicts rest v

/-- whether named schemas admit the members of their names -/
def Schema.propertiesAdmit : List (String × Schema) → List (String × Json) → Bool
  | [], _ => true
  | p :: rest, ms => Schema.propertyAdmits p ms && Schema.propertiesAdmit rest ms

/-- whether a named schema admits the members of its name -/
def Schema.propertyAdmits : String × Schema → List (String × Json) → Bool
  | (name, s), ms => ms.all fun m => !(m.1 = name) || s.admits m.2

end

end Admits

namespace SchemaDocument

/-- whether a definition admits a value when references are followed to a depth; beyond it nothing is admitted -/
def admitsBy (d : SchemaDocument) : Nat → String → Json → Bool
  | 0, _, _ => false
  | depth + 1, name, v =>
    match d.definition? name with
    | some s => s.admits (d.admitsBy depth) v
    | none => false

open Filter in
/-- **The verdict of a schema** on a value: what it says of the value from some depth of references on -/
def Judges (d : SchemaDocument) (s : Schema) (v : Json) (verdict : Bool) : Prop :=
  ∀ᶠ depth in atTop, s.admits (d.admitsBy depth) v = verdict

end SchemaDocument

/-! ## Lists of schemas -/

section Lists

variable (admitsBy : String → Json → Bool)

theorem Keyword.allAdmit_iff {known : List String} {keywords : List Keyword} {v : Json} :
    Keyword.allAdmit admitsBy known keywords v = true ↔ ∀ k ∈ keywords, k.admits admitsBy known v = true := by
  induction keywords with
  | nil => simp [Keyword.allAdmit]
  | cons k keywords ih => simp [Keyword.allAdmit, ih]

theorem Schema.verdicts_eq (schemas : List Schema) (v : Json) :
    Schema.verdicts admitsBy schemas v = schemas.map fun s => s.admits admitsBy v := by
  induction schemas with
  | nil => rfl
  | cons s schemas ih => simp [Schema.verdicts, ih]

theorem Schema.propertiesAdmit_iff {schemas : List (String × Schema)} {ms : List (String × Json)} :
    Schema.propertiesAdmit admitsBy schemas ms = true ↔
      ∀ p ∈ schemas, ∀ m ∈ ms, m.1 = p.1 → p.2.admits admitsBy m.2 = true := by
  induction schemas with
  | nil => simp [Schema.propertiesAdmit]
  | cons p schemas ih =>
    obtain ⟨name, s⟩ := p
    rw [Schema.propertiesAdmit, Bool.and_eq_true, ih, List.forall_mem_cons]
    refine and_congr_left fun _ => ?_
    simp [Schema.propertyAdmits, imp_iff_not_or]

end Lists

/-! ## Verdicts -/

namespace SchemaDocument

open Filter

variable {d : SchemaDocument} {s : Schema} {v : Json} {verdict other : Bool} {known : List String}

/-- what a schema says of a value without following references -/
theorem judges_of_forall (h : ∀ admitsBy, s.admits admitsBy v = verdict) : d.Judges s v verdict :=
  .of_forall fun depth => h (d.admitsBy depth)

/-- **A schema says one thing** of a value. -/
theorem Judges.unique (first : d.Judges s v verdict) (second : d.Judges s v other) : verdict = other := by
  obtain ⟨depth, same, differs⟩ := (first.and second).exists
  exact same.symm.trans differs

/-- **A reference** says what its definition says. -/
theorem judges_reference_iff {name : String} (found : d.definition? name = some s) :
    d.Judges (.mk [.definition name]) v verdict ↔ d.Judges s v verdict := by
  have deeper (depth : ℕ) : Schema.admits (d.admitsBy (depth + 1)) (.mk [.definition name]) v =
      s.admits (d.admitsBy depth) v := by
    show d.admitsBy (depth + 1) name v = _
    rw [admitsBy, found]
  unfold Judges
  conv_lhs => rw [← map_add_atTop_eq_nat 1, eventually_map]
  simp only [deeper]

theorem eventually_forall_mem_iff {α : Type} {l : List α} {p : α → ℕ → Prop} :
    (∀ᶠ depth in atTop, ∀ a ∈ l, p a depth) ↔ ∀ a ∈ l, ∀ᶠ depth in atTop, p a depth :=
  eventually_all_finite l.finite_toSet

/-- a keyword admits a value, from some depth of references on -/
def Allows (d : SchemaDocument) (known : List String) (k : Keyword) (v : Json) : Prop :=
  ∀ᶠ depth in atTop, k.admits (d.admitsBy depth) known v = true

/-- **A schema without a reference** admits what all its keywords allow. -/
theorem judges_mk_iff {keywords : List Keyword} (direct : keywords.findSome? Keyword.referent? = none) :
    d.Judges (.mk keywords) v true ↔ ∀ k ∈ keywords, d.Allows (keywords.flatMap Keyword.named) k v := by
  have opened (depth : ℕ) : (Schema.mk keywords).admits (d.admitsBy depth) v = true ↔
      ∀ k ∈ keywords, k.admits (d.admitsBy depth) (keywords.flatMap Keyword.named) v = true := by
    rw [Schema.admits, direct]
    exact Keyword.allAdmit_iff _
  simp only [Judges, Allows, opened, eventually_forall_mem_iff]

/-! ### Keywords that are notes, and those about one value alone -/

@[simp]
theorem allows_description (text : String) : d.Allows known (.description text) v := .of_forall fun _ => rfl

@[simp]
theorem allows_default (value : Json) : d.Allows known (.default value) v := .of_forall fun _ => rfl

@[simp]
theorem allows_format (name : String) : d.Allows known (.format name) v := .of_forall fun _ => rfl

@[simp]
theorem allows_types_iff {types : List JsonType} : d.Allows known (.types types) v ↔ ∃ t ∈ types, t.admits v = true := by
  show (∀ᶠ _ in atTop, (types.any fun t => t.admits v) = true) ↔ _
  rw [eventually_const, List.any_eq_true]

@[simp]
theorem allows_minimum_iff {bound n : JsonNumber} :
    d.Allows known (.minimum bound) (.number n) ↔ bound.value ≤ n.value := by
  show (∀ᶠ _ in atTop, decide (bound.value ≤ n.value) = true) ↔ _
  rw [eventually_const, decide_eq_true_iff]

/-! ### Keywords about parts of a value -/

@[simp]
theorem allows_properties_iff {schemas : List (String × Schema)} {ms : List (String × Json)} :
    d.Allows known (.properties schemas) (.object ms) ↔
      ∀ p ∈ schemas, ∀ m ∈ ms, m.1 = p.1 → d.Judges p.2 m.2 true := by
  show (∀ᶠ depth in atTop, Schema.propertiesAdmit (d.admitsBy depth) schemas ms = true) ↔ _
  simp only [Schema.propertiesAdmit_iff, eventually_forall_mem_iff, eventually_imp_distrib_left, Judges]

@[simp]
theorem allows_required_iff {names : List String} {ms : List (String × Json)} :
    d.Allows known (.required names) (.object ms) ↔ ∀ name ∈ names, name ∈ ms.map Prod.fst := by
  show (∀ᶠ _ in atTop, (names.all fun name => ms.any fun m => m.1 = name) = true) ↔ _
  rw [eventually_const]
  simp

@[simp]
theorem allows_otherProperties_iff {ms : List (String × Json)} :
    d.Allows known (.otherProperties s) (.object ms) ↔ ∀ m ∈ ms, m.1 ∉ known → d.Judges s m.2 true := by
  show (∀ᶠ depth in atTop, (ms.all fun m => known.contains m.1 || s.admits (d.admitsBy depth) m.2) = true) ↔ _
  simp only [List.all_eq_true, Bool.or_eq_true, List.contains_iff_mem, or_iff_not_imp_left, eventually_forall_mem_iff,
    eventually_imp_distrib_left, Judges]

@[simp]
theorem allows_items_iff {xs : List Json} :
    d.Allows known (.items s) (.array xs) ↔ ∀ x ∈ xs, d.Judges s x true := by
  show (∀ᶠ depth in atTop, (xs.all fun x => s.admits (d.admitsBy depth) x) = true) ↔ _
  simp only [List.all_eq_true, eventually_forall_mem_iff, Judges]

/-! ### Keywords about several schemas -/

@[simp]
theorem allows_allOf_iff {schemas : List Schema} :
    d.Allows known (.allOf schemas) v ↔ ∀ s ∈ schemas, d.Judges s v true := by
  show (∀ᶠ depth in atTop, ((Schema.verdicts (d.admitsBy depth) schemas v).all fun verdict => verdict) = true) ↔ _
  simp only [Schema.verdicts_eq, List.all_eq_true, List.forall_mem_map, eventually_forall_mem_iff, Judges]

theorem allows_anyOf {schemas : List Schema} (isOne : s ∈ schemas) (admitted : d.Judges s v true) :
    d.Allows known (.anyOf schemas) v := by
  filter_upwards [admitted] with depth h
  show ((Schema.verdicts (d.admitsBy depth) schemas v).any fun verdict => verdict) = true
  rw [Schema.verdicts_eq, List.any_eq_true]
  exact ⟨true, List.mem_map.2 ⟨s, isOne, h⟩, rfl⟩

/-- **One of several schemas** admits a value when the verdicts of all of them are known and one of these is that the
schema admits it. -/
theorem allows_oneOf {α : Type} {schema : α → Schema} {verdicts : α → Bool} {cases : List α}
    (each : ∀ a ∈ cases, d.Judges (schema a) v (verdicts a)) (one : (cases.map verdicts).count true = 1) :
    d.Allows known (.oneOf (cases.map schema)) v := by
  filter_upwards [eventually_forall_mem_iff.2 each] with depth all
  have same : Schema.verdicts (d.admitsBy depth) (cases.map schema) v = cases.map verdicts := by
    rw [Schema.verdicts_eq, List.map_map]
    exact List.map_congr_left all
  show decide ((Schema.verdicts (d.admitsBy depth) (cases.map schema) v).count true = 1) = true
  rw [same]
  exact decide_eq_true one

/-! ### Refusals -/

/-- **A member is refused** and with it the object, by a schema that has a schema for the name of this member. -/
theorem judges_false_of_property {keywords : List Keyword} {schemas : List (String × Schema)}
    {ms : List (String × Json)} {p : String × Schema} {m : String × Json}
    (direct : keywords.findSome? Keyword.referent? = none) (isKeyword : .properties schemas ∈ keywords)
    (isSchema : p ∈ schemas) (isMember : m ∈ ms) (named : m.1 = p.1) (refused : d.Judges p.2 m.2 false) :
    d.Judges (.mk keywords) (.object ms) false := by
  filter_upwards [refused] with depth h
  rw [Schema.admits, direct, Bool.eq_false_iff]
  intro admitted
  have allowed : Schema.propertiesAdmit (d.admitsBy depth) schemas ms = true :=
    (Keyword.allAdmit_iff _).1 admitted _ isKeyword
  rw [Schema.propertiesAdmit_iff] at allowed
  rw [allowed p isSchema m isMember named] at h
  cases h

end SchemaDocument
end ProcessBuild
