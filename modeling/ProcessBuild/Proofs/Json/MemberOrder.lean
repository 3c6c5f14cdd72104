/-
The order of the members of objects. A value as it is kept lists the members of each object in ascending key order, each
key once (`Json.IsSorted`); a value as it is written lists them as its writer does. `Json.sorted` puts the members of a
written value in key order, and a way to do so, or to leave them as they are, is an arrangement (`Json.Arranges`): it
changes the order of members and nothing else.
- `isSorted_sorted`, `sorted_of_isSorted`: a sorted value can be kept, and a value that is kept is not changed.
- `arranges_id`, `arranges_sorted`: leaving members as they are, and putting them in key order, are arrangements.
- `Arranges.members`: the members of an object with distinct keys, arranged, are found as before.
-/
import Mathlib.Data.List.Perm.Basic
import ProcessBuild.Json.Value
import ProcessBuild.Names.NameMap

namespace ProcessBuild.Json

/-! ## Members by key -/

section Members

variable {ms others : List (String × Json)} {key : String}

@[simp] theorem member?_nil (key : String) : member? key [] = none := rfl

@[simp] theorem member?_cons (key k : String) (v : Json) (ms : List (String × Json)) :
    member? key ((k, v) :: ms) = if k = key then some v else member? key ms := rfl

@[simp] theorem member?_append (key : String) (ms others : List (String × Json)) :
    member? key (ms ++ others) = (member? key ms).or (member? key others) := by
  induction ms with
  | nil => rfl
  | cons m ms ih =>
    obtain ⟨k, v⟩ := m
    rw [List.cons_append, member?_cons, member?_cons, ih]
    split
    · rfl
    · rfl

theorem mem_of_member? {v : Json} (found : member? key ms = some v) : (key, v) ∈ ms := by
  induction ms with
  | nil => cases found
  | cons m ms ih =>
    obtain ⟨k, w⟩ := m
    rw [member?_cons] at found
    split at found
    · rename_i same
      obtain rfl := Option.some.inj found
      exact same ▸ List.mem_cons_self
    · exact List.mem_cons_of_mem _ (ih found)

theorem member?_eq_some_iff (nodup : (ms.map Prod.fst).Nodup) {v : Json} : member? key ms = some v ↔ (key, v) ∈ ms := by
  induction ms with
  | nil => simp
  | cons m ms ih =>
    obtain ⟨k, w⟩ := m
    obtain ⟨fresh, rest⟩ := List.nodup_cons.1 nodup
    rw [member?_cons, List.mem_cons, Prod.mk.injEq]
    split
    · rename_i same
      subst same
      have absent : (k, v) ∉ ms := fun h => fresh (List.mem_map.2 ⟨(k, v), h, rfl⟩)
      simp only [Option.some.injEq, true_and, absent, or_false]
      exact eq_comm
    · rename_i other
      simp only [Ne.symm other, false_and, false_or, ih rest]

/-- members with distinct keys are found whatever their order is -/
theorem member?_of_perm (perm : ms.Perm others) (nodup : (ms.map Prod.fst).Nodup) : member? key ms = member? key others := by
  have same : ∀ v, member? key ms = some v ↔ member? key others = some v := by
    intro v
    rw [member?_eq_some_iff nodup, member?_eq_some_iff ((perm.map Prod.fst).nodup_iff.1 nodup), perm.mem_iff]
  exact Option.ext fun v => same v

theorem member?_map (f : Json → Json) (key : String) (ms : List (String × Json)) :
    member? key (ms.map fun m => (m.1, f m.2)) = (member? key ms).map f := by
  induction ms with
  | nil => rfl
  | cons m ms ih =>
    obtain ⟨k, v⟩ := m
    rw [List.map_cons, member?_cons, member?_cons, ih]
    split
    · rfl
    · rfl

theorem keys_map (f : Json → Json) (ms : List (String × Json)) :
    (ms.map fun m => (m.1, f m.2)).map Prod.fst = ms.map Prod.fst := by
  rw [List.map_map]
  rfl

end Members

/-! ## Key order -/

mutual

/-- a value whose objects list their members in ascending key order, each key once -/
def IsSorted : Json → Prop
  | .null => True
  | .bool _ => True
  | .number _ => True
  | .string _ => True
  | .array xs => AreSorted xs
  | .object ms => (ms.Pairwise fun a b => a.1 < b.1) ∧ MembersSorted ms

def AreSorted : List Json → Prop
  | [] => True
  | v :: rest => v.IsSorted ∧ AreSorted rest

/-- members whose values are all sorted -/
def MembersSorted : List (String × Json) → Prop
  | [] => True
  | m :: rest => MemberSorted m ∧ MembersSorted rest

/-- a member whose value is sorted -/
def MemberSorted : String × Json → Prop
  | (_, v) => v.IsSorted

end

mutual

/-- a value with the members of its objects in ascending key order; of several with one key the last one counts -/
def sorted : Json → Json
  | .null => .null
  | .bool b => .bool b
  | .number n => .number n
  | .string s => .string s
  | .array xs => .array (sortedItems xs)
  | .object ms => ofMembers (sortedMembers ms)

def sortedItems : List Json → List Json
  | [] => []
  | v :: rest => v.sorted :: sortedItems rest

/-- members with their values sorted -/
def sortedMembers : List (String × Json) → List (String × Json)
  | [] => []
  | m :: rest => sortedMember m :: sortedMembers rest

def sortedMember : String × Json → String × Json
  | (k, v) => (k, v.sorted)

end

theorem areSorted_iff {xs : List Json} : AreSorted xs ↔ ∀ v ∈ xs, v.IsSorted := by
  induction xs with
  | nil => simp [AreSorted]
  | cons v rest ih => rw [AreSorted, ih, List.forall_mem_cons]

theorem membersSorted_iff {ms : List (String × Json)} : MembersSorted ms ↔ ∀ m ∈ ms, m.2.IsSorted := by
  induction ms with
  | nil => simp [MembersSorted]
  | cons m rest ih => rw [MembersSorted, MemberSorted, ih, List.forall_mem_cons]

theorem sortedItems_eq (xs : List Json) : sortedItems xs = xs.map sorted := by
  induction xs with
  | nil => rfl
  | cons v rest ih => rw [sortedItems, ih, List.map_cons]

theorem sortedMembers_eq (ms : List (String × Json)) : sortedMembers ms = ms.map fun m => (m.1, m.2.sorted) := by
  induction ms with
  | nil => rfl
  | cons m rest ih => rw [sortedMembers, sortedMember, ih, List.map_cons]

/-! ## Insertion in key order -/

section Insertion

variable {α : Type} {key : String} {value : α} {l : List (String × α)}

theorem putMember_eq_alterList (key : String) (value : α) (l : List (String × α)) :
    putMember key value l = NameMap.alterList key (fun _ => value) l := by
  induction l with
  | nil => rfl
  | cons m rest ih => rw [putMember, NameMap.alterList, ih]

/-- a member with a new key is put in among the others -/
theorem putMember_perm (fresh : ∀ m ∈ l, m.1 ≠ key) : (putMember key value l).Perm ((key, value) :: l) := by
  induction l with
  | nil => exact List.Perm.refl _
  | cons m rest ih =>
    obtain ⟨k, v⟩ := m
    have other : key ≠ k := (fresh (k, v) List.mem_cons_self).symm
    rw [putMember]
    by_cases below : key < k
    · rw [if_pos below]
    · rw [if_neg below, if_neg other]
      exact ((ih fun m hm => fresh m (List.mem_cons_of_mem _ hm)).cons _).trans (List.Perm.swap _ _ _)

/-- a member whose key is above all others is put at the end -/
theorem putMember_last (above : ∀ m ∈ l, m.1 < key) : putMember key value l = l ++ [(key, value)] := by
  rw [putMember_eq_alterList, NameMap.alterList_fresh above]

theorem foldl_putMember_perm {ms : List (String × α)} (nodup : ((l ++ ms).map Prod.fst).Nodup) :
    (ms.foldl (fun acc m => putMember m.1 m.2 acc) l).Perm (l ++ ms) := by
  induction ms generalizing l with
  | nil => rw [List.foldl_nil, List.append_nil]
  | cons m ms ih =>
    have fresh : ∀ a ∈ l, a.1 ≠ m.1 := by
      intro a ha
      rw [List.map_append] at nodup
      exact (List.nodup_append.1 nodup).2.2 a.1 (List.mem_map_of_mem ha) m.1 (List.mem_map_of_mem List.mem_cons_self)
    have step : (putMember m.1 m.2 l ++ ms).Perm (l ++ m :: ms) :=
      ((putMember_perm fresh).append_right ms).trans List.perm_middle.symm
    exact (ih ((step.map Prod.fst).nodup_iff.2 nodup)).trans step

theorem foldl_putMember_ascending {ms : List (String × α)} (ascending : (l ++ ms).Pairwise fun a b => a.1 < b.1) :
    ms.foldl (fun acc m => putMember m.1 m.2 acc) l = l ++ ms := by
  induction ms generalizing l with
  | nil => rw [List.foldl_nil, List.append_nil]
  | cons m ms ih =>
    have above : ∀ a ∈ l, a.1 < m.1 := fun a ha => (List.pairwise_append.1 ascending).2.2 a ha m List.mem_cons_self
    have step : putMember m.1 m.2 l ++ ms = l ++ m :: ms := by
      rw [putMember_last above, List.append_assoc]
      rfl
    rw [List.foldl_cons, ih (step ▸ ascending), step]

theorem mem_putMember {m : String × α} (h : m ∈ putMember key value l) : m = (key, value) ∨ m ∈ l := by
  induction l with
  | nil => exact Or.inl (List.mem_singleton.1 h)
  | cons first rest ih =>
    rw [putMember] at h
    split at h
    · exact List.mem_cons.1 h
    · split at h
      · exact (List.mem_cons.1 h).imp_right (List.mem_cons_of_mem first)
      · rcases List.mem_cons.1 h with rfl | h
        · exact Or.inr List.mem_cons_self
        · exact (ih h).imp_right (List.mem_cons_of_mem first)

theorem ascending_putMember (ascending : l.Pairwise fun a b => a.1 < b.1) :
    (putMember key value l).Pairwise fun a b => a.1 < b.1 := by
  rw [putMember_eq_alterList]
  exact NameMap.ascending_alterList key _ ascending

theorem ascending_foldl_putMember {ms : List (String × α)} (ascending : l.Pairwise fun a b => a.1 < b.1) :
    (ms.foldl (fun acc m => putMember m.1 m.2 acc) l).Pairwise fun a b => a.1 < b.1 := by
  induction ms generalizing l with
  | nil => exact ascending
  | cons m ms ih => exact ih (ascending_putMember ascending)

theorem mem_of_foldl_putMember {ms : List (String × α)} {a : String × α}
    (h : a ∈ ms.foldl (fun acc m => putMember m.1 m.2 acc) l) : a ∈ ms ∨ a ∈ l := by
  induction ms generalizing l with
  | nil => exact Or.inr h
  | cons m ms ih =>
    rcases ih h with later | before
    · exact Or.inl (List.mem_cons_of_mem m later)
    · rcases mem_putMember before with rfl | old
      · exact Or.inl List.mem_cons_self
      · exact Or.inr old

end Insertion

/-- an object that is kept takes in a member with a value that is kept -/
theorem isSorted_putMember {ms : List (String × Json)} (h : (object ms).IsSorted) (key : String) {v : Json}
    (isSorted : v.IsSorted) : (object (putMember key v ms)).IsSorted := by
  rw [IsSorted, membersSorted_iff] at h ⊢
  refine ⟨ascending_putMember h.1, ?_⟩
  intro m isMember
  rcases mem_putMember isMember with rfl | old
  · exact isSorted
  · exact h.2 m old

mutual

/-- **A sorted value** is one that can be kept. -/
theorem isSorted_sorted (v : Json) : v.sorted.IsSorted := by
  match v with
  | .null => rw [sorted, IsSorted]; trivial
  | .bool _ => rw [sorted, IsSorted]; trivial
  | .number _ => rw [sorted, IsSorted]; trivial
  | .string _ => rw [sorted, IsSorted]; trivial
  | .array xs =>
    rw [sorted, IsSorted, areSorted_iff]
    exact isSorted_sortedItems xs
  | .object ms =>
    rw [sorted, ofMembers, IsSorted, membersSorted_iff]
    refine ⟨ascending_foldl_putMember List.Pairwise.nil, ?_⟩
    intro m isMember
    rcases mem_of_foldl_putMember isMember with written | none
    · exact isSorted_sortedMembers ms m written
    · cases none

theorem isSorted_sortedItems (xs : List Json) : ∀ v ∈ sortedItems xs, v.IsSorted := by
  match xs with
  | [] => exact fun v h => nomatch (sortedItems_eq [] ▸ h)
  | v :: rest =>
    rw [sortedItems, List.forall_mem_cons]
    exact ⟨isSorted_sorted v, isSorted_sortedItems rest⟩

theorem isSorted_sortedMembers (ms : List (String × Json)) : ∀ m ∈ sortedMembers ms, m.2.IsSorted := by
  match ms with
  | [] => exact fun m h => nomatch (sortedMembers_eq [] ▸ h)
  | (k, v) :: rest =>
    rw [sortedMembers, sortedMember, List.forall_mem_cons]
    exact ⟨isSorted_sorted v, isSorted_sortedMembers rest⟩

end

mutual

/-- **A value that is kept** in key order is not changed by sorting. -/
theorem sorted_of_isSorted (v : Json) (h : v.IsSorted) : v.sorted = v := by
  match v with
  | .null => rw [sorted]
  | .bool _ => rw [sorted]
  | .number _ => rw [sorted]
  | .string _ => rw [sorted]
  | .array xs =>
    rw [IsSorted] at h
    rw [sorted, sortedItems_of_areSorted xs h]
  | .object ms =>
    rw [IsSorted] at h
    rw [sorted, sortedMembers_of_membersSorted ms h.2, ofMembers]
    exact congrArg object (foldl_putMember_ascending h.1)

theorem sortedItems_of_areSorted (xs : List Json) (h : AreSorted xs) : sortedItems xs = xs := by
  match xs with
  | [] => rw [sortedItems]
  | v :: rest =>
    rw [AreSorted] at h
    rw [sortedItems, sorted_of_isSorted v h.1, sortedItems_of_areSorted rest h.2]

theorem sortedMembers_of_membersSorted (ms : List (String × Json)) (h : MembersSorted ms) : sortedMembers ms = ms := by
  match ms with
  | [] => rw [sortedMembers]
  | (k, v) :: rest =>
    rw [MembersSorted, MemberSorted] at h
    rw [sortedMembers, sortedMember, sorted_of_isSorted v h.1, sortedMembers_of_membersSorted rest h.2]

end

/-! ## Arrangements -/

/-- a function on values that changes the order of the members of objects and nothing else -/
structure Arranges (f : Json → Json) : Prop where
  null : f .null = .null
  bool : ∀ b, f (.bool b) = .bool b
  number : ∀ n, f (.number n) = .number n
  string : ∀ s, f (.string s) = .string s
  array : ∀ xs, f (.array xs) = .array (xs.map f)
  object : ∀ ms, (ms.map Prod.fst).Nodup → ∃ ms', f (.object ms) = .object ms' ∧ ms'.Perm (ms.map fun m => (m.1, f m.2))
  /-- a value that is kept in key order is not changed -/
  kept : ∀ v, v.IsSorted → f v = v

theorem arranges_id : Arranges id where
  null := rfl
  bool := fun _ => rfl
  number := fun _ => rfl
  string := fun _ => rfl
  array := fun xs => by rw [List.map_id]; rfl
  object := fun ms _ => ⟨ms, rfl, by simp⟩
  kept := fun _ _ => rfl

theorem arranges_sorted : Arranges sorted where
  null := by rw [sorted]
  bool := fun b => by rw [sorted]
  number := fun n => by rw [sorted]
  string := fun s => by rw [sorted]
  array := fun xs => by rw [sorted, sortedItems_eq]
  object := by
    intro ms nodup
    refine ⟨_, by rw [sorted, ofMembers, sortedMembers_eq], ?_⟩
    apply foldl_putMember_perm
    rwa [List.nil_append, keys_map]
  kept := sorted_of_isSorted

/-- **The members of an object with distinct keys**, arranged, are found as before. -/
theorem Arranges.members {f : Json → Json} (arranges : Arranges f) {ms : List (String × Json)}
    (nodup : (ms.map Prod.fst).Nodup) :
    ∃ ms', f (.object ms) = .object ms' ∧ ∀ key, member? key ms' = (member? key ms).map f := by
  obtain ⟨ms', arranged, perm⟩ := arranges.object ms nodup
  refine ⟨ms', arranged, ?_⟩
  intro key
  have distinct : (ms'.map Prod.fst).Nodup := by
    rw [(perm.map Prod.fst).nodup_iff, keys_map]
    exact nodup
  rw [member?_of_perm perm distinct, member?_map]

end ProcessBuild.Json
