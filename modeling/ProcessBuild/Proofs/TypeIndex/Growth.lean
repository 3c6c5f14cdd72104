/-
Type indexes only grow. What one view tells of a type is not lost when other views are merged with it: a structure stays
a structure, since no kind is smaller, and an interface stays an interface.
- `isLasting_struct`, `isLasting_interface`: the properties that are kept.
- `tells_insertAll`: an index tells what it told before, and what the facts that it takes in tell.
- `tells_addUnits`: the index of a build tells what each of its units tells.
-/
import ProcessBuild.Build.Unit
import ProcessBuild.Proofs.TypeIndex.Facts

namespace ProcessBuild

/-! ## Lasting properties -/

namespace TypeInfo

/-- a property of types that merging keeps, on whichever side it holds -/
structure IsLasting (P : TypeInfo → Prop) : Prop where
  left : ∀ {a b : TypeInfo}, P a → P (a.merge b)
  right : ∀ {a b : TypeInfo}, P b → P (a.merge b)

/-- **A structure** stays a structure. -/
theorem isLasting_struct : IsLasting fun t => t.kind = some .struct where
  left := by
    intro a b isStruct
    show join TypeKind.min a.kind b.kind = _
    rw [isStruct]
    cases b.kind with
    | none => rfl
    | some k => rfl
  right := by
    intro a b isStruct
    show join TypeKind.min a.kind b.kind = _
    rw [isStruct]
    cases a.kind with
    | none => rfl
    | some k =>
      cases k with
      | struct => rfl
      | enum => rfl
      | trait => rfl

/-- **An interface** stays an interface. -/
theorem isLasting_interface (name : String) : IsLasting fun t => name ∈ t.interfaces where
  left := fun isInterface => NameSet.mem_union.2 (.inl isInterface)
  right := fun isInterface => NameSet.mem_union.2 (.inr isInterface)

theorem IsLasting.and {P Q : TypeInfo → Prop} (hp : IsLasting P) (hq : IsLasting Q) : IsLasting fun t => P t ∧ Q t where
  left := fun h => ⟨hp.left h.1, hq.left h.2⟩
  right := fun h => ⟨hp.right h.1, hq.right h.2⟩

end TypeInfo

/-! ## What an index tells -/

namespace TypeIndex

variable {name : String} {P : TypeInfo → Prop}

/-- an index tells that a type has a property -/
def Tells (index : TypeIndex) (name : String) (P : TypeInfo → Prop) : Prop := ∃ t, index.get? name = some t ∧ P t

theorem tells_insert {index : TypeIndex} {other : String} {info : TypeInfo} (lasting : TypeInfo.IsLasting P)
    (h : index.Tells name P ∨ name = other ∧ P info) : (index.insert other info).Tells name P := by
  unfold Tells
  rw [get?_insert]
  rcases h with ⟨t, known, holds⟩ | ⟨rfl, holds⟩
  · split
    · rename_i same
      rw [← same, known]
      exact ⟨_, rfl, lasting.left holds⟩
    · exact ⟨t, known, holds⟩
  · rw [if_pos rfl]
    exact ⟨_, rfl, lasting.right holds⟩

/-- **What an index tells lasts** when it takes in facts, and it tells what these tell. -/
theorem tells_insertAll {index : TypeIndex} {facts : List TypeFact} (lasting : TypeInfo.IsLasting P)
    (h : index.Tells name P ∨ ∃ t, (name, t) ∈ facts ∧ P t) : (index.insertAll facts).Tells name P := by
  induction facts generalizing index with
  | nil => exact h.resolve_right fun ⟨_, isFact, _⟩ => nomatch isFact
  | cons f facts ih =>
    refine @ih (index.insert f.1 f.2) ?_
    rcases h with told | ⟨t, isFact, holds⟩
    · exact .inl (tells_insert lasting (.inl told))
    · rcases List.mem_cons.1 isFact with rfl | later
      · exact .inl (tells_insert lasting (.inr ⟨rfl, holds⟩))
      · exact .inr ⟨t, later, holds⟩

theorem tells_iff {index : TypeIndex} : index.Tells name P ↔ ∃ t, (name, t) ∈ index.types.entries ∧ P t :=
  exists_congr fun _ => and_congr_left' NameMap.get?_eq_some_iff

/-- **The index of a build** tells what it told before and what each unit tells. -/
theorem tells_addUnits {index : TypeIndex} {units : List CompiledUnit} (lasting : TypeInfo.IsLasting P)
    (h : index.Tells name P ∨ ∃ u ∈ units, u.declarations.Tells name P) : (index.addUnits units).Tells name P := by
  induction units generalizing index with
  | nil => exact h.resolve_right fun ⟨_, isUnit, _⟩ => nomatch isUnit
  | cons u units ih =>
    have merged : index.Tells name P ∨ u.declarations.Tells name P → (index.merge u.declarations).Tells name P :=
      fun h => tells_insertAll lasting (h.imp_right tells_iff.1)
    refine ih ?_
    rcases h with told | ⟨other, isUnit, told⟩
    · exact .inl (merged (.inl told))
    · rcases List.mem_cons.1 isUnit with rfl | later
      · exact .inl (merged (.inr told))
      · exact .inr ⟨other, later, told⟩

end TypeIndex
end ProcessBuild
