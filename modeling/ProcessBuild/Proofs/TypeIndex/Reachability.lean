/-
The subtypes of a root are the types from which a chain of edges leads to it, whatever cycles the edges make and
whatever names they lead to.

The search keeps to an invariant (`Searching`): every type found has a chain to the root and is indexed, and a type
whose children are not all found yet is still in the queue. A round takes one name from the queue and puts in the types
it finds, so the rounds are no more than the indexed types and the root, and the fuel covers them.
- `Searching.step`: one round of the search keeps the invariant.
- `mem_searchFrom`: a search that starts with the invariant and with fuel enough ends with the types that have a chain.
- `mem_subtypes`, `mem_concreteSubtypes`: the subtypes of a root, and the structures and enumerations among them.
- `subtypes_exact`: the search ends on every index, and the subtypes of a root are what it ends with, each once.
-/
import Mathlib.Data.List.Perm.Subperm
import Mathlib.Logic.Relation
import ProcessBuild.TypeIndex.Subtypes

namespace ProcessBuild

/-- a set whose members are among the names of a list has no more members than the list -/
theorem NameSet.size_le_of_subset {s : NameSet} {names : List String} (h : ∀ name ∈ s, name ∈ names) :
    s.size ≤ names.length := by
  have distinct : s.toList.Nodup := s.ascending.imp String.ne_of_lt
  exact (distinct.subperm h).length_le

namespace TypeIndex

variable {index : TypeIndex} {root : String}

/-! ## Edges -/

/-- an edge from a type to its supertype or to one of its interfaces, which need not be indexed -/
def Edge (index : TypeIndex) (name parent : String) : Prop :=
  ∃ info, index.get? name = some info ∧ (info.supertype = some parent ∨ parent ∈ info.interfaces)

theorem mem_parents {info : TypeInfo} {parent : String} :
    parent ∈ info.parents ↔ info.supertype = some parent ∨ parent ∈ info.interfaces := by
  rw [TypeInfo.parents, List.mem_append, Option.mem_toList]
  rfl

theorem mem_children {name parent : String} : name ∈ index.children parent ↔ index.Edge name parent := by
  simp only [children, List.mem_map, List.mem_filter, List.contains_iff_mem, mem_parents]
  constructor
  · rintro ⟨⟨_, info⟩, ⟨entry, leads⟩, rfl⟩
    exact ⟨info, NameMap.get?_eq_some_iff.2 entry, leads⟩
  · rintro ⟨info, known, leads⟩
    exact ⟨(name, info), ⟨NameMap.get?_eq_some_iff.1 known, leads⟩, rfl⟩

theorem mem_names_of_edge {name parent : String} (h : index.Edge name parent) : name ∈ index.types.names := by
  obtain ⟨info, known, -⟩ := h
  exact List.mem_map.2 ⟨(name, info), NameMap.get?_eq_some_iff.1 known, rfl⟩

theorem mem_names_of_chain {name other : String} (chain : Relation.TransGen index.Edge name other) :
    name ∈ index.types.names := by
  obtain ⟨parent, edge, -⟩ := Relation.TransGen.head'_iff.1 chain
  exact mem_names_of_edge edge

/-! ## Entering types -/

/-- what is found and queued after the types of a list are entered -/
structure Entered (root : String) (names : List String) (before after : NameSet × List String) : Prop where
  found : ∀ name, name ∈ after.1 ↔ name ∈ before.1 ∨ name ∈ names ∧ name ≠ root
  queued : ∀ name, name ∈ after.2 → name ∈ before.2 ∨ name ∈ names ∧ name ≠ root
  kept : ∀ name ∈ before.2, name ∈ after.2
  fresh : ∀ name ∈ after.1, name ∈ before.1 ∨ name ∈ after.2
  count : after.2.length + before.1.size = before.2.length + after.1.size

variable {front back : List String} {before middle after : NameSet × List String}

theorem Entered.nil (root : String) (before : NameSet × List String) : Entered root [] before before :=
  ⟨fun _ => by simp, fun _ => Or.inl, fun _ => id, fun _ => Or.inl, rfl⟩

/-- the root and types that are found already are passed over -/
theorem Entered.skip {name : String} (known : name = root ∨ name ∈ before.1) : Entered root [name] before before := by
  refine ⟨fun other => ⟨Or.inl, ?_⟩, fun _ => Or.inl, fun _ => id, fun _ => Or.inl, rfl⟩
  rintro (old | ⟨new, notRoot⟩)
  · exact old
  · obtain rfl := List.mem_singleton.1 new
    exact known.resolve_left notRoot

theorem Entered.take {name : String} {found : NameSet} (queue : List String) (notRoot : name ≠ root)
    (unknown : name ∉ found) : Entered root [name] (found, queue) (found.insert name, queue ++ [name]) := by
  refine ⟨fun other => ?_, fun other h => ?_, fun other h => List.mem_append_left _ h, fun other h => ?_, ?_⟩
  · rw [NameSet.mem_insert, List.mem_singleton, or_comm]
    refine or_congr_right ⟨?_, And.left⟩
    rintro rfl
    exact ⟨rfl, notRoot⟩
  · rcases List.mem_append.1 h with old | new
    · exact Or.inl old
    · obtain rfl := List.mem_singleton.1 new
      exact Or.inr ⟨List.mem_cons_self, notRoot⟩
  · rcases NameSet.mem_insert.1 h with rfl | old
    · exact Or.inr (List.mem_append_right queue List.mem_cons_self)
    · exact Or.inl old
  · show (queue ++ [name]).length + found.size = queue.length + (found.insert name).size
    rw [NameSet.size_insert unknown, List.length_append, List.length_singleton]
    omega

theorem Entered.append (h : Entered root front before middle) (k : Entered root back middle after) :
    Entered root (front ++ back) before after := by
  have either : ∀ {name : String}, (name ∈ front ∧ name ≠ root) ∨ (name ∈ back ∧ name ≠ root) ↔
      name ∈ front ++ back ∧ name ≠ root := by
    intro name
    rw [← or_and_right, List.mem_append]
  refine ⟨fun name => ?_, fun name queued => ?_, fun name queued => k.kept name (h.kept name queued),
    fun name isFound => ?_, ?_⟩
  · rw [k.found, h.found, or_assoc, either]
  · rcases k.queued name queued with early | late
    · exact (h.queued name early).imp_right fun new => either.1 (Or.inl new)
    · exact Or.inr (either.1 (Or.inr late))
  · rcases k.fresh name isFound with early | late
    · exact (h.fresh name early).imp_right (k.kept name)
    · exact Or.inr late
  · have first := h.count
    have second := k.count
    omega

/-- **Entering types** adds those that are new. -/
theorem entered_enter (root : String) (names : List String) (before : NameSet × List String) :
    Entered root names before (enter root before names) := by
  induction names generalizing before with
  | nil => exact Entered.nil root before
  | cons name rest ih =>
    obtain ⟨found, queue⟩ := before
    rw [enter]
    split
    · rename_i known
      exact (Entered.skip known).append (ih (found, queue))
    · rename_i new
      rw [not_or] at new
      obtain ⟨notRoot, unknown⟩ := new
      exact (Entered.take queue notRoot unknown).append (ih (found.insert name, queue ++ [name]))

/-! ## Search -/

/-- where a search for the subtypes of a root stands: what it found, what it has to work through, and the fuel left -/
structure Searching (index : TypeIndex) (root : String) (fuel : Nat) (found : NameSet) (queue : List String) :
    Prop where
  /-- every type found has a chain of edges to the root -/
  reached : ∀ name ∈ found, name ≠ root ∧ Relation.TransGen index.Edge name root
  /-- only the root and types found are queued -/
  queued : ∀ name ∈ queue, name = root ∨ name ∈ found
  /-- the children of the root and of every type found are found, or it is still queued -/
  closed : ∀ name, name = root ∨ name ∈ found → name ∈ queue ∨ ∀ child, index.Edge child name →
    child = root ∨ child ∈ found
  /-- the fuel covers the queue and the types that are not found yet -/
  enough : queue.length + index.size ≤ fuel + found.size

theorem searching_start (index : TypeIndex) (root : String) :
    Searching index root (index.size + 1) NameSet.empty [root] where
  reached name h := absurd h (NameSet.not_mem_empty name)
  queued name h := Or.inl (List.mem_singleton.1 h)
  closed name h := Or.inl (List.mem_singleton.2 (h.resolve_right (NameSet.not_mem_empty name)))
  enough := by
    rw [List.length_singleton, Nat.add_comm]
    exact Nat.le_add_right _ _

theorem Searching.size_le {fuel : Nat} {found : NameSet} {queue : List String}
    (h : Searching index root fuel found queue) : found.size ≤ index.size := by
  have indexed : ∀ name ∈ found, name ∈ index.types.names := fun name isFound =>
    mem_names_of_chain (h.reached name isFound).2
  have size := NameSet.size_le_of_subset indexed
  rwa [NameMap.names, List.length_map] at size

/-- when the fuel is used up, nothing is queued -/
theorem Searching.eq_nil_of_zero {found : NameSet} {queue : List String} (h : Searching index root 0 found queue) :
    queue = [] := by
  have enough := h.enough
  have size := h.size_le
  exact List.eq_nil_of_length_eq_zero (by omega)

/-- the children of a name join the types found, and those that were found or queued stay so -/
theorem Searching.closed_step {fuel : Nat} {found found' : NameSet} {name other : String} {queue queue' : List String}
    (h : Searching index root fuel found (name :: queue))
    (entered : Entered root (index.children name) (found, queue) (found', queue'))
    (known : other = root ∨ other ∈ found) :
    other ∈ queue' ∨ ∀ child, index.Edge child other → child = root ∨ child ∈ found' := by
  rcases h.closed other known with inQueue | children
  · rcases List.mem_cons.1 inQueue with rfl | later
    · refine Or.inr fun child edge => ?_
      by_cases isRoot : child = root
      · exact Or.inl isRoot
      · exact Or.inr ((entered.found child).2 (Or.inr ⟨mem_children.2 edge, isRoot⟩))
    · exact Or.inl (entered.kept other later)
  · exact Or.inr fun child edge => (children child edge).imp_right fun isFound =>
      (entered.found child).2 (Or.inl isFound)

/-- **One round of the search** keeps the invariant. -/
theorem Searching.step {fuel : Nat} {found : NameSet} {name : String} {queue : List String}
    (h : Searching index root (fuel + 1) found (name :: queue)) :
    Searching index root fuel (enter root (found, queue) (index.children name)).1
      (enter root (found, queue) (index.children name)).2 := by
  have entered := entered_enter root (index.children name) (found, queue)
  generalize enter root (found, queue) (index.children name) = after at entered
  obtain ⟨found', queue'⟩ := after
  -- the name that is taken has a chain to the root, which its children have through it
  have chain : ∀ child, index.Edge child name → Relation.TransGen index.Edge child root := by
    intro child edge
    rcases h.queued name List.mem_cons_self with rfl | isFound
    · exact .single edge
    · exact .head edge (h.reached name isFound).2
  refine ⟨fun other isFound => ?_, fun other inQueue => ?_, fun other known => ?_, ?_⟩
  · rcases (entered.found other).1 isFound with old | ⟨isChild, notRoot⟩
    · exact h.reached other old
    · exact ⟨notRoot, chain other (mem_children.1 isChild)⟩
  · rcases entered.queued other inQueue with old | new
    · exact (h.queued other (List.mem_cons_of_mem name old)).imp_right fun isFound =>
        (entered.found other).2 (Or.inl isFound)
    · exact Or.inr ((entered.found other).2 (Or.inr new))
  · rcases known with isRoot | isFound
    · exact h.closed_step entered (Or.inl isRoot)
    · rcases entered.fresh other isFound with old | inQueue
      · exact h.closed_step entered (Or.inr old)
      · exact Or.inl inQueue
  · have enough := h.enough
    have count : queue'.length + found.size = queue.length + found'.size := entered.count
    rw [List.length_cons] at enough
    show queue'.length + index.size ≤ fuel + found'.size
    omega

/-- a search with nothing left to work through has found every type with a chain to the root -/
theorem Searching.complete {fuel : Nat} {found : NameSet} (h : Searching index root fuel found []) {name : String} :
    name ∈ found ↔ name ≠ root ∧ Relation.TransGen index.Edge name root := by
  refine ⟨h.reached name, ?_⟩
  rintro ⟨notRoot, chain⟩
  have known : name = root ∨ name ∈ found := by
    clear notRoot
    -- along the chain, from the root down
    induction chain using Relation.TransGen.head_induction_on with
    | single edge => exact ((h.closed root (Or.inl rfl)).resolve_left (List.not_mem_nil)) _ edge
    | head edge _ ih => exact ((h.closed _ ih).resolve_left (List.not_mem_nil)) _ edge
  exact known.resolve_left notRoot

/-- **A search** that stands by the invariant ends with the types that have a chain to the root. -/
theorem mem_searchFrom {fuel : Nat} {found : NameSet} {queue : List String}
    (h : Searching index root fuel found queue) {name : String} :
    name ∈ searchFrom index root fuel found queue ↔ name ≠ root ∧ Relation.TransGen index.Edge name root := by
  induction fuel generalizing found queue with
  | zero =>
    obtain rfl := h.eq_nil_of_zero
    rw [searchFrom]
    exact h.complete
  | succ fuel ih =>
    cases queue with
    | nil =>
      rw [searchFrom]
      exact h.complete
    | cons first rest =>
      rw [searchFrom]
      exact ih h.step

/-- **The subtypes of a root** are the other types from which a chain of edges leads to it. -/
theorem mem_subtypes {name : String} :
    name ∈ index.subtypes root ↔ name ≠ root ∧ Relation.TransGen index.Edge name root :=
  mem_searchFrom (searching_start index root)

/-- the search with no bound on its rounds: from what is found and queued to what is found once nothing is queued -/
inductive Search (index : TypeIndex) (root : String) : NameSet → List String → NameSet → Prop where
  | done (found : NameSet) : Search index root found [] found
  | round {found result : NameSet} {name : String} {queue : List String}
      (rest : Search index root (enter root (found, queue) (index.children name)).1
        (enter root (found, queue) (index.children name)).2 result) : Search index root found (name :: queue) result

theorem Search.unique {found result other : NameSet} {queue : List String} (h : Search index root found queue result)
    (k : Search index root found queue other) : result = other := by
  induction h with
  | done found =>
    cases k with
    | done => rfl
  | round _ ih =>
    cases k with
    | round rest => exact ih rest

/-- **A search** that stands by the invariant ends before its fuel does. -/
theorem search_searchFrom {fuel : Nat} {found : NameSet} {queue : List String}
    (h : Searching index root fuel found queue) : Search index root found queue (searchFrom index root fuel found queue) := by
  induction fuel generalizing found queue with
  | zero =>
    obtain rfl := h.eq_nil_of_zero
    rw [searchFrom]
    exact .done found
  | succ fuel ih =>
    cases queue with
    | nil =>
      rw [searchFrom]
      exact .done found
    | cons first rest =>
      rw [searchFrom]
      exact .round (ih h.step)

/-- **The query for subtypes is exact.** Its search comes to an end on every index, whatever cycles the edges make, and
what it has found then is the answer. The answer names the indexed types other than the root from which a chain of
edges leads to the root, each of them once; the root, and the names that edges lead to, need not be indexed. -/
theorem subtypes_exact (index : TypeIndex) (root : String) :
    (∀ result, Search index root NameSet.empty [root] result ↔ result = index.subtypes root) ∧
      (index.subtypes root).toList.Nodup ∧
      ∀ name, name ∈ index.subtypes root ↔
        name ∈ index.types.names ∧ name ≠ root ∧ Relation.TransGen index.Edge name root := by
  have ends : Search index root NameSet.empty [root] (index.subtypes root) :=
    search_searchFrom (searching_start index root)
  refine ⟨fun result => ⟨fun other => other.unique ends, ?_⟩, ?_, fun name => ?_⟩
  · rintro rfl
    exact ends
  · exact (index.subtypes root).ascending.imp String.ne_of_lt
  · rw [mem_subtypes]
    refine ⟨fun ⟨notRoot, chain⟩ => ⟨mem_names_of_chain chain, notRoot, chain⟩, And.right⟩

/-- a root in a cycle, a type with an edge to itself and two paths to the root, and an edge to a name without entry -/
def circularIndex : TypeIndex :=
  let root := empty.insert "Root" { supertype := some "Low" }
  let high := root.insert "High" { interfaces := NameSet.ofList ["Elsewhere", "Root"] }
  high.insert "Low" { supertype := some "Low", interfaces := NameSet.ofList ["High", "Root"] }

example : (circularIndex.subtypes "Root").toList = ["High", "Low"] := by decide +kernel

example : (circularIndex.subtypes "Elsewhere").toList = ["High", "Low", "Root"] := by decide +kernel

/-- whether values of an indexed type can be made: it is a structure or an enumeration -/
def Concrete (index : TypeIndex) (name : String) : Prop :=
  ∃ info, index.get? name = some info ∧ (info.kind = some .struct ∨ info.kind = some .enum)

theorem isConcrete_iff {info : TypeInfo} : info.isConcrete = true ↔ info.kind = some .struct ∨ info.kind = some .enum := by
  unfold TypeInfo.isConcrete
  cases info.kind with
  | none => simp
  | some kind =>
    cases kind with
    | struct => simp [TypeKind.isConcrete]
    | enum => simp [TypeKind.isConcrete]
    | trait => simp [TypeKind.isConcrete]

/-- **The concrete subtypes of a root** are the structures and enumerations among its subtypes. -/
theorem mem_concreteSubtypes {name : String} :
    name ∈ index.concreteSubtypes root ↔
      name ≠ root ∧ index.Concrete name ∧ Relation.TransGen index.Edge name root := by
  rw [concreteSubtypes, NameSet.mem_filter, mem_subtypes]
  refine and_assoc.trans (and_congr_right fun _ => and_comm.trans (and_congr_left fun _ => ?_))
  cases known : index.get? name with
  | none => simp [Concrete, known]
  | some info => simp [Concrete, known, isConcrete_iff]

end TypeIndex
end ProcessBuild
