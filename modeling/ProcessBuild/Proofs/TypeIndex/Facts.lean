/-
Indexes of facts. What several facts tell of one type is merged in their order, whatever facts of other types stand
between; facts that come type by type in ascending order are therefore kept in their order.
- `TypeIndex.get?_insertAll`: what an index tells of a type after taking in facts.
- `TypeIndex.entries_ofFacts`: the entries of an index of facts that come type by type.
- `Source.facts_interface`, `Source.facts_deref`: what an implementation of a trait tells.
-/
import ProcessBuild.TypeIndex.Declarations

namespace ProcessBuild

open Source

namespace TypeInfo

/-- what is known of a type of which nothing is known yet is all that is added -/
@[simp] theorem nothing_merge (t : TypeInfo) : ({} : TypeInfo).merge t = t := by
  obtain ⟨kind, supertype, interfaces⟩ := t
  rw [merge, NameSet.empty_union]
  rfl

/-- what several views of one type tell together, the first of them given -/
def mergeAll (first : TypeInfo) (others : List TypeInfo) : TypeInfo := others.foldl merge first

end TypeInfo

namespace TypeIndex

/-- an index after taking in facts -/
def insertAll (index : TypeIndex) (facts : List TypeFact) : TypeIndex :=
  facts.foldl (fun index f => index.insert f.1 f.2) index

theorem insertAll_append (index : TypeIndex) (facts others : List TypeFact) :
    index.insertAll (facts ++ others) = (index.insertAll facts).insertAll others := List.foldl_append

theorem get?_insert (index : TypeIndex) (name other : String) (info : TypeInfo) :
    (index.insert name info).get? other =
      if other = name then some (((index.get? name).getD {}).merge info) else index.get? other :=
  NameMap.get?_alter _ _ _ _

/-- what a fact adds to what is known of a type -/
def learn (name : String) (known : Option TypeInfo) (f : TypeFact) : Option TypeInfo :=
  if name = f.1 then some ((known.getD {}).merge f.2) else known

/-- **What an index tells of a type** after taking in facts is what it told before with each fact of the type added. -/
theorem get?_insertAll (index : TypeIndex) (facts : List TypeFact) (name : String) :
    (index.insertAll facts).get? name = facts.foldl (learn name) (index.get? name) := by
  induction facts generalizing index with
  | nil => rfl
  | cons f facts ih =>
    have step : (index.insert f.1 f.2).get? name = learn name (index.get? name) f := by
      rw [get?_insert, learn]
      by_cases same : name = f.1
      · rw [if_pos same, if_pos same, same]
      · rw [if_neg same, if_neg same]
    exact (ih (index.insert f.1 f.2)).trans (by rw [step, List.foldl_cons])

/-! ## Facts type by type -/

/-- the facts of one type, at least one -/
structure TypeFacts where
  name : String
  first : TypeInfo
  others : List TypeInfo

def TypeFacts.facts (g : TypeFacts) : List TypeFact := (g.first :: g.others).map fun info => (g.name, info)

def TypeFacts.entry (g : TypeFacts) : String × TypeInfo := (g.name, g.first.mergeAll g.others)

theorem entries_insertOthers (index : TypeIndex) {name : String} {l : List (String × TypeInfo)} {info : TypeInfo}
    (others : List TypeInfo) (h : ∀ e ∈ l, e.1 < name) (known : index.types.entries = l ++ [(name, info)]) :
    (index.insertAll (others.map fun info => (name, info))).types.entries = l ++ [(name, info.mergeAll others)] := by
  induction others generalizing index info with
  | nil => exact known
  | cons other others ih =>
    refine ih (index.insert name other) ?_
    show NameMap.alterList name _ index.types.entries = _
    rw [known, NameMap.alterList_last h]
    rfl

theorem entries_insertFacts {index : TypeIndex} (g : TypeFacts) (h : ∀ e ∈ index.types.entries, e.1 < g.name) :
    (index.insertAll g.facts).types.entries = index.types.entries ++ [g.entry] := by
  refine entries_insertOthers (index.insert g.name g.first) g.others h ?_
  show NameMap.alterList g.name _ index.types.entries = _
  rw [NameMap.alterList_fresh h, Option.getD_none, TypeInfo.nothing_merge]

theorem entries_insertGroups (index : TypeIndex) {groups : List TypeFacts}
    (ascending : groups.Pairwise fun a b => a.name < b.name)
    (h : ∀ g ∈ groups, ∀ e ∈ index.types.entries, e.1 < g.name) :
    (index.insertAll (groups.flatMap TypeFacts.facts)).types.entries =
      index.types.entries ++ groups.map TypeFacts.entry := by
  induction groups generalizing index with
  | nil => exact (List.append_nil _).symm
  | cons g groups ih =>
    obtain ⟨first, rest⟩ := List.pairwise_cons.1 ascending
    have entries := entries_insertFacts g (h g List.mem_cons_self)
    rw [List.flatMap_cons, insertAll_append, ih _ rest, entries, List.map_cons, List.append_assoc]
    · rfl
    · intro other hOther e he
      rw [entries] at he
      rcases List.mem_append.1 he with old | new
      · exact h other (List.mem_cons_of_mem _ hOther) e old
      · obtain rfl := List.mem_singleton.1 new
        exact first other hOther

/-- **Facts that come type by type**, the types in ascending order, give the types in this order. -/
theorem entries_ofFacts {groups : List TypeFacts} (ascending : groups.Pairwise fun a b => a.name < b.name) :
    (ofFacts (groups.flatMap TypeFacts.facts)).types.entries = groups.map TypeFacts.entry :=
  entries_insertGroups empty ascending fun _ _ _ he => nomatch he

end TypeIndex

namespace Source

/-! ## Facts of items -/

theorem factsOfAll_append (scope : Scope) (items others : List Item) :
    factsOfAll scope (items ++ others) = factsOfAll scope items ++ factsOfAll scope others := by
  induction items with
  | nil => rfl
  | cons item items ih => rw [List.cons_append, factsOfAll, factsOfAll, ih, List.append_assoc]

theorem factsOfAll_flatMap {α : Type} (scope : Scope) (f : α → List Item) (xs : List α) :
    factsOfAll scope (xs.flatMap f) = xs.flatMap fun x => factsOfAll scope (f x) := by
  induction xs with
  | nil => rfl
  | cons x xs ih => rw [List.flatMap_cons, List.flatMap_cons, factsOfAll_append, ih]

/-- an item that tells of no types -/
def Item.IsSilent (item : Item) : Prop := ∀ scope, item.facts scope = []

theorem isSilent_use (absolute : Bool) (tree : UseTree) : (Item.use absolute tree).IsSilent := fun _ => by
  rw [Item.facts]

theorem isSilent_other : Item.other.IsSilent := fun _ => by
  rw [Item.facts]

theorem factsOfAll_silent {scope : Scope} {items : List Item} (h : ∀ item ∈ items, item.IsSilent) :
    factsOfAll scope items = [] := by
  induction items with
  | nil => rfl
  | cons item items ih =>
    rw [factsOfAll, ih fun i hi => h i (List.mem_cons_of_mem item hi), h item List.mem_cons_self scope]
    rfl

/-- the trait whose implementations lead from a type to another one -/
def IsDeref (trait : String) : Prop := trait = "std::ops::Deref" ∨ trait = "core::ops::Deref"

instance (trait : String) : Decidable (IsDeref trait) :=
  inferInstanceAs (Decidable (trait = "std::ops::Deref" ∨ trait = "core::ops::Deref"))

theorem contains_derefNames_iff {trait : String} : derefNames.contains trait = true ↔ IsDeref trait := by
  simp [derefNames, IsDeref]

/-- an implementation of a trait that leads to no other type gives the trait as an interface -/
theorem facts_interface {scope : Scope} {trait type : Path} {name full : String} {targets : List (Option Path)}
    (resolved : scope.resolve type = name) (isTrait : scope.resolve trait = full) (h : ¬IsDeref full) :
    (Item.impl ⟨false, trait, some type, targets⟩).facts scope =
      [(name, { interfaces := NameSet.empty.insert full })] := by
  subst resolved isTrait
  have other : derefNames.contains (scope.resolve trait) = false := by
    rw [← Bool.not_eq_true, contains_derefNames_iff]
    exact h
  rw [Item.facts, TraitImpl.fact?]
  simp only [other, Bool.false_eq_true, if_false, Option.toList_some]

/-- an implementation of `Deref` gives its target as the supertype -/
theorem facts_deref {scope : Scope} {trait type target : Path} {name full : String}
    (resolved : scope.resolve type = name) (isDeref : scope.resolve trait = "std::ops::Deref")
    (leads : scope.resolve target = full) :
    (Item.impl ⟨false, trait, some type, [some target]⟩).facts scope = [(name, { supertype := some full })] := by
  subst resolved leads
  have deref : derefNames.contains (scope.resolve trait) = true := by
    rw [contains_derefNames_iff, isDeref]
    exact .inl rfl
  rw [Item.facts, TraitImpl.fact?]
  simp only [deref, if_true]
  rfl

end Source
end ProcessBuild
