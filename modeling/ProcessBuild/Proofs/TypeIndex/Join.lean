/-
Indexing is a join. What two views of one type tell together is their least upper bound, field by field: the smaller
kind, the smaller supertype, all interfaces, and a missing field gives way to a present one. The bound is lifted from
a field to a type (`TypeInfo.merge_comm` and its companions), from a type to what an index tells of a name
(`TypeIndex.get?_merge`) and from there to whole indexes, which are a join-semilattice with the empty index at the
bottom.
- `addUnits_le_iff`: an index of units is the least one above the index before and what each unit tells.
- `addUnits_flatten`: batches that are indexed one on top of the other are indexed as one.
- `addUnits_join`: the index of a build depends on which units are indexed, not on their order, number or batches.
-/
import Mathlib.Data.String.Basic
import Mathlib.Order.Lattice
import Mathlib.Tactic.Tauto
import ProcessBuild.Build.Unit
import ProcessBuild.Proofs.TypeIndex.Facts

namespace ProcessBuild

/-! ## Fields -/

namespace TypeKind

theorem min_comm (a b : TypeKind) : min a b = min b a := by
  cases a <;> cases b <;> rfl

theorem min_assoc (a b c : TypeKind) : min (min a b) c = min a (min b c) := by
  cases a <;> cases b <;> cases c <;> rfl

theorem min_self (a : TypeKind) : min a a = a := by
  cases a <;> rfl

end TypeKind

namespace TypeInfo

/-- the smaller of two names is their minimum in the order of strings -/
theorem minName_eq (a b : String) : minName a b = min a b := by
  unfold minName
  rw [min_def]
  by_cases h : b < a
  · rw [if_pos h, if_neg (not_le.2 h)]
  · rw [if_neg h, if_pos (not_lt.1 h)]

theorem minName_comm (a b : String) : minName a b = minName b a := by
  rw [minName_eq, minName_eq, min_comm]

theorem minName_assoc (a b c : String) : minName (minName a b) c = minName a (minName b c) := by
  rw [minName_eq, minName_eq, minName_eq, minName_eq, min_assoc]

theorem minName_self (a : String) : minName a a = a := by
  rw [minName_eq, min_self]

section Join

variable {α : Type} {f : α → α → α}

theorem join_comm (comm : ∀ a b, f a b = f b a) (x y : Option α) : join f x y = join f y x := by
  cases x with
  | none =>
    cases y with
    | none => rfl
    | some b => rfl
  | some a =>
    cases y with
    | none => rfl
    | some b => exact congrArg some (comm a b)

theorem join_assoc (assoc : ∀ a b c, f (f a b) c = f a (f b c)) (x y z : Option α) :
    join f (join f x y) z = join f x (join f y z) := by
  cases x with
  | none => rfl
  | some a =>
    cases y with
    | none => rfl
    | some b =>
      cases z with
      | none => rfl
      | some c => exact congrArg some (assoc a b c)

theorem join_self (idem : ∀ a, f a a = a) (x : Option α) : join f x x = x := by
  cases x with
  | none => rfl
  | some a => exact congrArg some (idem a)

@[simp] theorem join_none (x : Option α) : join f x none = x := by
  cases x with
  | none => rfl
  | some a => rfl

end Join

/-! ## Types -/

/-- **Two views of one type** tell the same together, whichever comes first. -/
theorem merge_comm (a b : TypeInfo) : a.merge b = b.merge a := by
  have kind := join_comm TypeKind.min_comm a.kind b.kind
  have supertype := join_comm minName_comm a.supertype b.supertype
  have interfaces : a.interfaces.union b.interfaces = b.interfaces.union a.interfaces := by
    ext name
    rw [NameSet.mem_union, NameSet.mem_union, Or.comm]
  unfold merge
  rw [kind, supertype, interfaces]

/-- **Three views of one type** tell the same together, whichever two are merged first. -/
theorem merge_assoc (a b c : TypeInfo) : (a.merge b).merge c = a.merge (b.merge c) := by
  have kind := join_assoc TypeKind.min_assoc a.kind b.kind c.kind
  have supertype := join_assoc minName_assoc a.supertype b.supertype c.supertype
  have interfaces : (a.interfaces.union b.interfaces).union c.interfaces =
      a.interfaces.union (b.interfaces.union c.interfaces) := by
    ext name
    simp only [NameSet.mem_union, or_assoc]
  unfold merge
  rw [kind, supertype, interfaces]

/-- **A view of a type** tells nothing new of it. -/
theorem merge_self (a : TypeInfo) : a.merge a = a := by
  have kind := join_self TypeKind.min_self a.kind
  have supertype := join_self minName_self a.supertype
  have interfaces : a.interfaces.union a.interfaces = a.interfaces := by
    ext name
    rw [NameSet.mem_union, or_self]
  unfold merge
  rw [kind, supertype, interfaces]

end TypeInfo

/-! ## Indexes -/

namespace TypeIndex

open TypeInfo (join join_comm join_assoc join_self join_none)

/-- indexes that tell the same of every name are equal -/
theorem ext_get? {a b : TypeIndex} (h : ∀ name, a.get? name = b.get? name) : a = b := by
  have types : a.types = b.types := NameMap.ext h
  cases a
  cases b
  exact congrArg mk types

/-- facts of other types change nothing -/
theorem foldl_learn_of_ne {name : String} {facts : List TypeFact} (h : ∀ f ∈ facts, name ≠ f.1)
    (known : Option TypeInfo) : facts.foldl (learn name) known = known := by
  induction facts generalizing known with
  | nil => rfl
  | cons f facts ih =>
    have other : learn name known f = known := if_neg (h f List.mem_cons_self)
    rw [List.foldl_cons, other]
    exact ih (fun g hg => h g (List.mem_cons_of_mem f hg)) known

/-- facts with one fact at most of each type tell what the fact of the type tells -/
theorem foldl_learn {name : String} {facts : List TypeFact} (ascending : facts.Pairwise fun a b => a.1 < b.1)
    (known : Option TypeInfo) :
    facts.foldl (learn name) known = join TypeInfo.merge known (NameMap.findIn name facts) := by
  induction facts generalizing known with
  | nil => exact (join_none known).symm
  | cons f facts ih =>
    obtain ⟨first, rest⟩ := List.pairwise_cons.1 ascending
    rw [List.foldl_cons, NameMap.findIn]
    by_cases same : f.1 = name
    · have absent : ∀ g ∈ facts, name ≠ g.1 := by
        intro g hg equal
        exact String.lt_irrefl name (by simpa only [same, ← equal] using first g hg)
      rw [if_pos same, foldl_learn_of_ne absent, learn, if_pos same.symm]
      cases known with
      | none => exact congrArg some (TypeInfo.nothing_merge f.2)
      | some t => rfl
    · rw [if_neg same, learn, if_neg (Ne.symm same)]
      exact ih rest known

/-- **What two indexes tell of a name together** is what each of them tells of it, merged. -/
theorem get?_merge (a b : TypeIndex) (name : String) :
    (a.merge b).get? name = join TypeInfo.merge (a.get? name) (b.get? name) :=
  (get?_insertAll a b.types.entries name).trans (foldl_learn b.types.ascending (a.get? name))

theorem merge_comm (a b : TypeIndex) : a.merge b = b.merge a := by
  apply ext_get?
  intro name
  rw [get?_merge, get?_merge]
  exact join_comm TypeInfo.merge_comm _ _

theorem merge_assoc (a b c : TypeIndex) : (a.merge b).merge c = a.merge (b.merge c) := by
  apply ext_get?
  intro name
  rw [get?_merge, get?_merge, get?_merge, get?_merge]
  exact join_assoc TypeInfo.merge_assoc _ _ _

theorem merge_self (a : TypeIndex) : a.merge a = a := by
  apply ext_get?
  intro name
  rw [get?_merge]
  exact join_self TypeInfo.merge_self _

theorem merge_empty (a : TypeIndex) : a.merge empty = a := rfl

theorem empty_merge (a : TypeIndex) : empty.merge a = a := (merge_comm empty a).trans (merge_empty a)

instance : Max TypeIndex := ⟨merge⟩

/-- indexes in the order of what they tell: the join of two indexes is what they tell together -/
instance : SemilatticeSup TypeIndex := SemilatticeSup.mk' merge_comm merge_assoc merge_self

/-! ## Units -/

/-- **The index of units** is the least one above the index before and above what each unit tells. -/
theorem addUnits_le_iff {index bound : TypeIndex} {units : List CompiledUnit} :
    index.addUnits units ≤ bound ↔ index ≤ bound ∧ ∀ u ∈ units, u.declarations ≤ bound := by
  induction units generalizing index with
  | nil => simp [addUnits]
  | cons u units ih =>
    have step : index.addUnits (u :: units) = (index ⊔ u.declarations).addUnits units := rfl
    rw [step, ih, sup_le_iff, List.forall_mem_cons, and_assoc]

/-- units that occur in both of two lists are indexed alike, however often and wherever they occur -/
theorem addUnits_congr {index : TypeIndex} {units others : List CompiledUnit} (h : ∀ u, u ∈ units ↔ u ∈ others) :
    index.addUnits units = index.addUnits others := by
  apply eq_of_forall_ge_iff
  intro bound
  rw [addUnits_le_iff, addUnits_le_iff]
  simp only [h]

/-- **Batches of units**, each indexed on top of the ones before, are indexed as one list. -/
theorem addUnits_flatten (index : TypeIndex) (batches : List (List CompiledUnit)) :
    batches.foldl addUnits index = index.addUnits batches.flatten := by
  induction batches generalizing index with
  | nil => rfl
  | cons batch batches ih =>
    rw [List.foldl_cons, ih, List.flatten_cons]
    exact (List.foldl_append ..).symm

/-- **Indexing is a join.** Merging is commutative, associative and idempotent, with the empty index as its unit, also
where the indexes tell different things of one type. So any batches of units, indexed one on top of the other, give the
index that a list of the same units gives: the order, the repetitions and the batches of units do not matter. -/
theorem addUnits_join :
    (∀ a b : TypeIndex, a.merge b = b.merge a) ∧ (∀ a b c : TypeIndex, (a.merge b).merge c = a.merge (b.merge c)) ∧
      (∀ a : TypeIndex, a.merge a = a) ∧ (∀ a : TypeIndex, empty.merge a = a ∧ a.merge empty = a) ∧
      ∀ (index : TypeIndex) (units : List CompiledUnit) (batches : List (List CompiledUnit)),
        (∀ u, u ∈ batches.flatten ↔ u ∈ units) → batches.foldl addUnits index = index.addUnits units := by
  refine ⟨merge_comm, merge_assoc, merge_self, fun a => ⟨empty_merge a, merge_empty a⟩, ?_⟩
  intro index units batches same
  rw [addUnits_flatten]
  exact addUnits_congr same

/-- a unit that declares a type as a structure with a supertype -/
def declaringUnit : CompiledUnit :=
  ⟨"order.rs", "app::order", "", ofFacts [("app::T", { kind := some .struct, supertype := some "rt::B" })]⟩

/-- a unit that tells of the same type as a trait with another supertype and an interface -/
def conflictingUnit : CompiledUnit :=
  ⟨"ship.rs", "app::ship", "", ofFacts
    [("app::T", { kind := some .trait, supertype := some "rt::A", interfaces := NameSet.ofList ["rt::I"] })]⟩

theorem addUnits_conflicting :
    (∀ u, u ∈ [[conflictingUnit], [declaringUnit, conflictingUnit]].flatten ↔ u ∈ [declaringUnit, conflictingUnit]) ∧
      [[conflictingUnit], [declaringUnit, conflictingUnit]].foldl addUnits empty =
        empty.addUnits [declaringUnit, conflictingUnit] ∧
      (empty.addUnits [declaringUnit, conflictingUnit]).get? "app::T" =
        some { kind := some .struct, supertype := some "rt::A", interfaces := NameSet.ofList ["rt::I"] } := by
  have same : ∀ u, u ∈ [[conflictingUnit], [declaringUnit, conflictingUnit]].flatten ↔
      u ∈ [declaringUnit, conflictingUnit] := by
    intro u
    simp only [List.flatten_cons, List.flatten_nil, List.append_nil, List.mem_append, List.mem_cons, List.not_mem_nil,
      or_false]
    tauto
  exact ⟨same, addUnits_join.2.2.2.2 empty _ _ same, by decide +kernel⟩

end TypeIndex
end ProcessBuild
