/-
Wider indexes. An index that takes in another one keeps its structures and enumerations, since no kind that it can take
over is a smaller one that cannot be made, and it keeps its edges as long as the two do not disagree on a supertype: of
two supertypes only one is kept. So every chain of edges that an index has is one of the wider index.
- `SupertypesAgree`: no type has two different supertypes, one in each index.
- `Edge.merge`, `Concrete.merge`: the edges and the concrete types of an index are those of a wider one.
- `addUnits_merge`: indexes of units that are merged are the index of all the units.
-/
import ProcessBuild.Proofs.TypeIndex.Growth
import ProcessBuild.Proofs.TypeIndex.Join
import ProcessBuild.Proofs.TypeIndex.Reachability

namespace ProcessBuild

open Relation

namespace TypeInfo

variable {a b : TypeInfo} {parent : String}

theorem concrete_merge (concrete : a.kind = some .struct ∨ a.kind = some .enum) :
    (a.merge b).kind = some .struct ∨ (a.merge b).kind = some .enum := by
  show join TypeKind.min a.kind b.kind = _ ∨ join TypeKind.min a.kind b.kind = _
  rcases concrete with isStruct | isEnum
  · exact .inl (isLasting_struct.left isStruct)
  · rw [isEnum]
    cases b.kind with
    | none => exact .inr rfl
    | some kind =>
      cases kind with
      | struct => exact .inl rfl
      | enum => exact .inr rfl
      | trait => exact .inr rfl

/-- **A structure or an enumeration** stays one or the other. -/
theorem isLasting_concrete : IsLasting fun t => t.kind = some .struct ∨ t.kind = some .enum where
  left := concrete_merge
  right := by
    intro a b concrete
    rw [merge_comm]
    exact concrete_merge concrete

/-- a supertype is kept where the other view has no other one -/
theorem supertype_merge (leads : a.supertype = some parent) (agree : ∀ second, b.supertype = some second → parent = second) :
    (a.merge b).supertype = some parent := by
  show join minName a.supertype b.supertype = some parent
  rw [leads]
  cases second : b.supertype with
  | none => rfl
  | some s =>
    obtain rfl := agree s second
    exact congrArg some (minName_self parent)

/-- the supertype that two views of a type tell together is one that they tell -/
theorem supertype_of_merge (leads : (a.merge b).supertype = some parent) :
    a.supertype = some parent ∨ b.supertype = some parent := by
  change join minName a.supertype b.supertype = some parent at leads
  cases first : a.supertype with
  | none =>
    rw [first] at leads
    exact .inr leads
  | some s =>
    cases second : b.supertype with
    | none =>
      rw [first, second] at leads
      exact .inl leads
    | some other =>
      rw [first, second] at leads
      have smaller : minName s other = parent := Option.some.inj leads
      unfold minName at smaller
      split at smaller
      · exact .inr (congrArg some smaller)
      · exact .inl (congrArg some smaller)

end TypeInfo

namespace TypeIndex

variable {index other : TypeIndex} {name parent : String}

/-! ## Supertypes -/

/-- an index tells that a type has a supertype -/
def TellsSupertype (index : TypeIndex) (name parent : String) : Prop := index.Tells name fun t => t.supertype = some parent

/-- no type has two different supertypes, one in each index -/
def SupertypesAgree (index other : TypeIndex) : Prop :=
  ∀ name first second, index.TellsSupertype name first → other.TellsSupertype name second → first = second

def supertypesOf (entries : List (String × TypeInfo)) : List (String × String) :=
  entries.filterMap fun e => e.2.supertype.map fun parent => (e.1, parent)

theorem mem_supertypesOf {entries : List (String × TypeInfo)} :
    (name, parent) ∈ supertypesOf entries ↔ ∃ t, (name, t) ∈ entries ∧ t.supertype = some parent := by
  simp only [supertypesOf, List.mem_filterMap, Option.map_eq_some_iff, Prod.mk.injEq]
  constructor
  · rintro ⟨⟨_, t⟩, isEntry, _, leads, rfl, rfl⟩
    exact ⟨t, isEntry, leads⟩
  · rintro ⟨t, isEntry, leads⟩
    exact ⟨(name, t), isEntry, parent, leads, rfl, rfl⟩

theorem tellsSupertype_iff : index.TellsSupertype name parent ↔ (name, parent) ∈ supertypesOf index.types.entries :=
  tells_iff.trans mem_supertypesOf.symm

/-- no type of a list has two different supertypes, one in each list -/
def PairsAgree (pairs others : List (String × String)) : Prop := ∀ x ∈ pairs, ∀ y ∈ others, x.1 = y.1 → x.2 = y.2

instance (pairs others : List (String × String)) : Decidable (PairsAgree pairs others) :=
  inferInstanceAs (Decidable (∀ x ∈ pairs, ∀ y ∈ others, x.1 = y.1 → x.2 = y.2))

theorem supertypesAgree_iff : index.SupertypesAgree other ↔
    PairsAgree (supertypesOf index.types.entries) (supertypesOf other.types.entries) := by
  constructor
  · rintro agree ⟨name, first⟩ inIndex ⟨_, second⟩ inOther rfl
    exact agree name first second (tellsSupertype_iff.2 inIndex) (tellsSupertype_iff.2 inOther)
  · intro agree name first second inIndex inOther
    exact agree (name, first) (tellsSupertype_iff.1 inIndex) (name, second) (tellsSupertype_iff.1 inOther) rfl

instance : Decidable (index.SupertypesAgree other) := decidable_of_iff _ supertypesAgree_iff.symm

/-- a supertype is kept where the other index tells of no other one -/
theorem TellsSupertype.merge (told : index.TellsSupertype name parent) (agree : index.SupertypesAgree other) :
    (index.merge other).TellsSupertype name parent := by
  have same : ∀ second, other.TellsSupertype name second → parent = second := fun second => agree name parent second told
  obtain ⟨t, known, leads⟩ := told
  unfold TellsSupertype Tells
  rw [get?_merge, known]
  cases telling : other.get? name with
  | none => exact ⟨t, rfl, leads⟩
  | some u =>
    refine ⟨t.merge u, rfl, TypeInfo.supertype_merge leads fun second tells => ?_⟩
    exact same second ⟨u, telling, tells⟩

theorem tellsSupertype_of_merge (told : (index.merge other).TellsSupertype name parent) :
    index.TellsSupertype name parent ∨ other.TellsSupertype name parent := by
  obtain ⟨t, known, leads⟩ := told
  rw [get?_merge] at known
  cases mine : index.get? name with
  | none =>
    rw [mine] at known
    exact .inr ⟨t, known, leads⟩
  | some a =>
    cases others : other.get? name with
    | none =>
      rw [mine, others] at known
      exact .inl ⟨t, mine.trans known, leads⟩
    | some b =>
      rw [mine, others] at known
      obtain rfl := Option.some.inj known
      rcases TypeInfo.supertype_of_merge leads with first | second
      · exact .inl ⟨a, mine, first⟩
      · exact .inr ⟨b, others, second⟩

/-- **A supertype in the index of a build** comes from the index before it or from one of the units. -/
theorem tellsSupertype_of_addUnits {units : List CompiledUnit} (told : (index.addUnits units).TellsSupertype name parent) :
    index.TellsSupertype name parent ∨ ∃ u ∈ units, u.declarations.TellsSupertype name parent := by
  induction units generalizing index with
  | nil => exact .inl told
  | cons u units ih =>
    have later : ((index.merge u.declarations).addUnits units).TellsSupertype name parent := told
    rcases ih later with before | ⟨v, isUnit, inUnit⟩
    · rcases tellsSupertype_of_merge before with mine | inFirst
      · exact .inl mine
      · exact .inr ⟨u, List.mem_cons_self, inFirst⟩
    · exact .inr ⟨v, List.mem_cons_of_mem u isUnit, inUnit⟩

/-! ## Edges and concrete types -/

/-- what an index tells lasts when it takes in another one -/
theorem Tells.merge {P : TypeInfo → Prop} (told : index.Tells name P) (lasting : TypeInfo.IsLasting P) :
    (index.merge other).Tells name P := tells_insertAll lasting (.inl told)

/-- **An edge** is kept where the supertypes agree. -/
theorem Edge.merge (edge : index.Edge name parent) (agree : index.SupertypesAgree other) :
    (index.merge other).Edge name parent := by
  obtain ⟨t, known, isSupertype | isInterface⟩ := edge
  · have told : index.TellsSupertype name parent := ⟨t, known, isSupertype⟩
    obtain ⟨merged, knownThen, leads⟩ := told.merge agree
    exact ⟨merged, knownThen, .inl leads⟩
  · have told : index.Tells name fun t => parent ∈ t.interfaces := ⟨t, known, isInterface⟩
    obtain ⟨merged, knownThen, leads⟩ := told.merge (TypeInfo.isLasting_interface parent)
    exact ⟨merged, knownThen, .inr leads⟩

/-- **A chain of edges** is kept where the supertypes agree. -/
theorem chain_merge (chain : TransGen index.Edge name parent) (agree : index.SupertypesAgree other) :
    TransGen (index.merge other).Edge name parent := by
  have edges : index.Edge ≤ (index.merge other).Edge := fun _ _ edge => Edge.merge edge agree
  exact TransGen.mono edges _ _ chain

/-- **A concrete type** stays one, whatever the other index says of its kind. -/
theorem Concrete.merge (concrete : index.Concrete name) : (index.merge other).Concrete name :=
  Tells.merge concrete TypeInfo.isLasting_concrete

/-! ## Indexes of units -/

/-- **Indexes of units** that are merged are the index of all the units. -/
theorem addUnits_merge (index other : TypeIndex) (units more : List CompiledUnit) :
    (index.addUnits units).merge (other.addUnits more) = (index.merge other).addUnits (units ++ more) := by
  apply eq_of_forall_ge_iff
  intro bound
  show index.addUnits units ⊔ other.addUnits more ≤ bound ↔ (index ⊔ other).addUnits (units ++ more) ≤ bound
  simp only [sup_le_iff, addUnits_le_iff, List.forall_mem_append]
  tauto

end TypeIndex
end ProcessBuild
