/-
Sets of names, kept in ascending order with each name once. Two sets with the same members are equal (`NameSet.ext`).
-/
import ProcessBuild.Names.NameMap

namespace ProcessBuild

structure NameSet where
  toList : List String
  ascending : toList.Pairwise (· < ·)
  deriving DecidableEq

namespace NameSet

/-- put a name into an ascending list -/
def insertList (name : String) : List String → List String
  | [] => [name]
  | k :: rest => if name < k then name :: k :: rest else if name = k then k :: rest else k :: insertList name rest

theorem mem_insertList {name a : String} {l : List String} : a ∈ insertList name l ↔ a = name ∨ a ∈ l := by
  induction l with
  | nil => simp [insertList]
  | cons k rest ih =>
    simp only [insertList]
    split
    · simp
    · split
      · rename_i h; subst h; simp
      · simp only [List.mem_cons, ih]
        constructor
        · rintro (h | h | h)
          · exact Or.inr (Or.inl h)
          · exact Or.inl h
          · exact Or.inr (Or.inr h)
        · rintro (h | h | h)
          · exact Or.inr (Or.inl h)
          · exact Or.inl h
          · exact Or.inr (Or.inr h)

theorem ascending_insertList (name : String) {l : List String} (h : l.Pairwise (· < ·)) :
    (insertList name l).Pairwise (· < ·) := by
  induction l with
  | nil => simp [insertList]
  | cons k rest ih =>
    obtain ⟨hk, hr⟩ := List.pairwise_cons.1 h
    simp only [insertList]
    split
    · rename_i hlt
      refine List.pairwise_cons.2 ⟨fun a ha => ?_, h⟩
      rcases List.mem_cons.1 ha with ha | ha
      · rw [ha]; exact hlt
      · exact String.lt_trans hlt (hk a ha)
    · split
      · exact h
      · rename_i hnlt hne
        refine List.pairwise_cons.2 ⟨fun a ha => ?_, ih hr⟩
        rcases mem_insertList.1 ha with ha | ha
        · rw [ha]; exact NameMap.lt_of_not_lt_of_ne hnlt hne
        · exact hk a ha

def empty : NameSet := ⟨[], List.Pairwise.nil⟩

instance : EmptyCollection NameSet := ⟨empty⟩
instance : Inhabited NameSet := ⟨empty⟩
instance : Membership String NameSet := ⟨fun s a => a ∈ s.toList⟩

def insert (s : NameSet) (name : String) : NameSet :=
  ⟨insertList name s.toList, ascending_insertList name s.ascending⟩

def contains (s : NameSet) (name : String) : Bool := s.toList.contains name

def union (s t : NameSet) : NameSet := t.toList.foldl insert s

def ofList (l : List String) : NameSet := l.foldl insert empty

/-- the members that satisfy a test -/
def filter (p : String → Bool) (s : NameSet) : NameSet := ⟨s.toList.filter p, s.ascending.filter p⟩

def isEmpty (s : NameSet) : Bool := s.toList.isEmpty

def size (s : NameSet) : Nat := s.toList.length

/-! ## Laws -/

theorem mem_def {s : NameSet} {a : String} : a ∈ s ↔ a ∈ s.toList := Iff.rfl

@[simp] theorem not_mem_empty (a : String) : ¬a ∈ (empty : NameSet) := by simp [mem_def, empty]

@[simp] theorem mem_insert {s : NameSet} {name a : String} : a ∈ s.insert name ↔ a = name ∨ a ∈ s := mem_insertList

@[simp] theorem contains_iff {s : NameSet} {a : String} : s.contains a = true ↔ a ∈ s := by
  simp [contains, mem_def]

theorem mem_foldl_insert {l : List String} {s : NameSet} {a : String} :
    a ∈ l.foldl insert s ↔ a ∈ l ∨ a ∈ s := by
  induction l generalizing s with
  | nil => simp
  | cons k rest ih =>
    rw [List.foldl_cons, ih, mem_insert, List.mem_cons]
    constructor
    · rintro (h | h | h)
      · exact Or.inl (Or.inr h)
      · exact Or.inl (Or.inl h)
      · exact Or.inr h
    · rintro ((h | h) | h)
      · exact Or.inr (Or.inl h)
      · exact Or.inl h
      · exact Or.inr (Or.inr h)

@[simp] theorem mem_union {s t : NameSet} {a : String} : a ∈ s.union t ↔ a ∈ s ∨ a ∈ t := by
  rw [union, mem_foldl_insert, mem_def, Or.comm]; rfl

@[simp] theorem mem_ofList {l : List String} {a : String} : a ∈ ofList l ↔ a ∈ l := by
  simp [ofList, mem_foldl_insert]

@[simp] theorem mem_filter {p : String → Bool} {s : NameSet} {a : String} :
    a ∈ s.filter p ↔ a ∈ s ∧ p a = true := List.mem_filter

theorem length_insertList {name : String} {l : List String} (h : name ∉ l) :
    (insertList name l).length = l.length + 1 := by
  induction l with
  | nil => rfl
  | cons k rest ih =>
    have other : name ≠ k := fun same => h (same ▸ List.mem_cons_self)
    rw [insertList, if_neg other]
    split
    · rfl
    · rw [List.length_cons, ih fun later => h (List.mem_cons_of_mem k later), List.length_cons]

theorem size_insert {s : NameSet} {name : String} (h : name ∉ s) : (s.insert name).size = s.size + 1 :=
  length_insertList h

theorem eq_of_mem_iff {l₁ l₂ : List String} (h₁ : l₁.Pairwise (· < ·)) (h₂ : l₂.Pairwise (· < ·))
    (h : ∀ a, a ∈ l₁ ↔ a ∈ l₂) : l₁ = l₂ := by
  induction l₁ generalizing l₂ with
  | nil =>
    cases l₂ with
    | nil => rfl
    | cons k _ => exact absurd ((h k).2 List.mem_cons_self) (by simp)
  | cons k r₁ ih =>
    cases l₂ with
    | nil => exact absurd ((h k).1 List.mem_cons_self) (by simp)
    | cons k' r₂ =>
      obtain ⟨hk, hr₁⟩ := List.pairwise_cons.1 h₁
      obtain ⟨hk', hr₂⟩ := List.pairwise_cons.1 h₂
      -- each first member is in the other list, and so not before the first member there
      have hkk : k = k' := by
        rcases List.mem_cons.1 ((h k).1 List.mem_cons_self) with h1 | h1
        · exact h1
        · rcases List.mem_cons.1 ((h k').2 List.mem_cons_self) with h2 | h2
          · exact h2.symm
          · exact absurd (String.lt_trans (hk k' h2) (hk' k h1)) (String.lt_irrefl _)
      subst hkk
      rw [ih hr₁ hr₂ fun a => ?_]
      constructor
      · intro ha
        rcases List.mem_cons.1 ((h a).1 (List.mem_cons_of_mem _ ha)) with h1 | h1
        · exact absurd (h1 ▸ hk a ha) (String.lt_irrefl _)
        · exact h1
      · intro ha
        rcases List.mem_cons.1 ((h a).2 (List.mem_cons_of_mem _ ha)) with h1 | h1
        · exact absurd (h1 ▸ hk' a ha) (String.lt_irrefl _)
        · exact h1

/-- sets with the same members are equal -/
@[ext] theorem ext {s t : NameSet} (h : ∀ a, a ∈ s ↔ a ∈ t) : s = t := by
  have := eq_of_mem_iff s.ascending t.ascending h
  cases s; cases t; simp_all

@[simp] theorem empty_union (s : NameSet) : NameSet.empty.union s = s := by
  ext a
  rw [mem_union]
  exact ⟨fun h => h.resolve_left (not_mem_empty a), Or.inr⟩

theorem eq_empty_of_isEmpty {s : NameSet} (h : s.isEmpty = true) : s = empty := by
  obtain ⟨names, ascending⟩ := s
  obtain rfl := List.isEmpty_iff.1 h
  rfl

theorem insert_of_mem {s : NameSet} {name : String} (h : name ∈ s) : s.insert name = s := by
  ext a
  rw [mem_insert]
  exact ⟨fun ha => ha.elim (fun same => same ▸ h) id, Or.inr⟩

theorem ofList_toList (s : NameSet) : ofList s.toList = s := by
  ext name
  rw [mem_ofList, mem_def]

end NameSet
end ProcessBuild
