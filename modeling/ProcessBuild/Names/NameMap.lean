/-
Maps from names to values, kept as a list in ascending order of names with each name once. The order is part of the
type, so two maps with the same look-ups are equal (`NameMap.ext`).
-/

namespace ProcessBuild

/-- a map from names to values -/
structure NameMap (β : Type) where
  entries : List (String × β)
  ascending : entries.Pairwise fun a b => a.1 < b.1

namespace NameMap

variable {β γ : Type}

/-- change the entry of a name in an ascending list, or put one in -/
def alterList (name : String) (f : Option β → β) : List (String × β) → List (String × β)
  | [] => [(name, f none)]
  | (k, v) :: rest =>
    if name < k then (name, f none) :: (k, v) :: rest
    else if name = k then (name, f (some v)) :: rest
    else (k, v) :: alterList name f rest

def findIn (name : String) : List (String × β) → Option β
  | [] => none
  | (k, v) :: rest => if k = name then some v else findIn name rest

theorem mem_alterList {name : String} {f : Option β → β} {a : String × β} {l : List (String × β)}
    (h : a ∈ alterList name f l) : a.1 = name ∨ a ∈ l := by
  induction l with
  | nil => simp [alterList] at h; exact Or.inl (by rw [h])
  | cons e rest ih =>
    obtain ⟨k, v⟩ := e
    simp only [alterList] at h
    split at h
    · rcases List.mem_cons.1 h with h | h
      · exact Or.inl (by rw [h])
      · exact Or.inr h
    · split at h
      · rcases List.mem_cons.1 h with h | h
        · exact Or.inl (by rw [h])
        · exact Or.inr (List.mem_cons_of_mem _ h)
      · rcases List.mem_cons.1 h with h | h
        · exact Or.inr (by rw [h]; exact List.mem_cons_self)
        · rcases ih h with h | h
          · exact Or.inl h
          · exact Or.inr (List.mem_cons_of_mem _ h)

theorem lt_of_not_lt_of_ne {a b : String} (h : ¬a < b) (hne : a ≠ b) : b < a := by
  rcases String.le_total a b with hab | hba
  · exact absurd (String.le_antisymm hab h) hne
  · exact String.not_le.1 fun hab => hne (String.le_antisymm hab hba)

theorem ascending_alterList (name : String) (f : Option β → β) {l : List (String × β)}
    (h : l.Pairwise fun a b => a.1 < b.1) : (alterList name f l).Pairwise fun a b => a.1 < b.1 := by
  induction l with
  | nil => simp [alterList]
  | cons e rest ih =>
    obtain ⟨k, v⟩ := e
    obtain ⟨hk, hr⟩ := List.pairwise_cons.1 h
    simp only [alterList]
    split
    · rename_i hlt
      refine List.pairwise_cons.2 ⟨fun a ha => ?_, h⟩
      rcases List.mem_cons.1 ha with ha | ha
      · rw [ha]; exact hlt
      · exact String.lt_trans hlt (hk a ha)
    · split
      · rename_i heq
        refine List.pairwise_cons.2 ⟨fun a ha => ?_, hr⟩
        show name < a.1
        rw [heq]; exact hk a ha
      · rename_i hnlt hne
        refine List.pairwise_cons.2 ⟨fun a ha => ?_, ih hr⟩
        rcases mem_alterList ha with ha | ha
        · show k < a.1
          rw [ha]; exact lt_of_not_lt_of_ne hnlt hne
        · exact hk a ha

def empty : NameMap β := ⟨[], List.Pairwise.nil⟩

instance : EmptyCollection (NameMap β) := ⟨empty⟩
instance : Inhabited (NameMap β) := ⟨empty⟩

def get? (m : NameMap β) (name : String) : Option β := findIn name m.entries

/-- change the entry of a name, or put one in -/
def alter (m : NameMap β) (name : String) (f : Option β → β) : NameMap β :=
  ⟨alterList name f m.entries, ascending_alterList name f m.ascending⟩

def insert (m : NameMap β) (name : String) (value : β) : NameMap β := m.alter name fun _ => value

/-- the map of a list of entries, a later one counting over an earlier one -/
def ofList (l : List (String × β)) : NameMap β := l.foldl (fun m e => m.insert e.1 e.2) empty

/-- the names in ascending order -/
def names (m : NameMap β) : List String := m.entries.map Prod.fst

def contains (m : NameMap β) (name : String) : Bool := (m.get? name).isSome

def size (m : NameMap β) : Nat := m.entries.length

def isEmpty (m : NameMap β) : Bool := m.entries.isEmpty

/-! ## Laws -/

theorem findIn_eq_none_of_lt {name : String} {l : List (String × β)} (h : ∀ a ∈ l, name < a.1) :
    findIn name l = none := by
  induction l with
  | nil => rfl
  | cons e rest ih =>
    obtain ⟨k, v⟩ := e
    have hk : k ≠ name := fun hk => String.lt_irrefl _ (hk ▸ h (k, v) List.mem_cons_self)
    simp [findIn, hk, ih fun a ha => h a (List.mem_cons_of_mem _ ha)]

theorem findIn_alterList_self {name : String} {f : Option β → β} {l : List (String × β)}
    (h : l.Pairwise fun a b => a.1 < b.1) : findIn name (alterList name f l) = some (f (findIn name l)) := by
  induction l with
  | nil => simp [alterList, findIn]
  | cons e rest ih =>
    obtain ⟨k, v⟩ := e
    obtain ⟨hk, hr⟩ := List.pairwise_cons.1 h
    simp only [alterList]
    split
    · rename_i hlt
      have : findIn name ((k, v) :: rest) = none := findIn_eq_none_of_lt fun a ha => by
        rcases List.mem_cons.1 ha with ha | ha
        · rw [ha]; exact hlt
        · exact String.lt_trans hlt (hk a ha)
      rw [this]; simp [findIn]
    · split
      · rename_i heq; subst heq; simp [findIn]
      · rename_i hne
        simp [findIn, Ne.symm hne, ih hr]

theorem findIn_alterList_ne {name other : String} {f : Option β → β} {l : List (String × β)} (h : other ≠ name) :
    findIn other (alterList name f l) = findIn other l := by
  induction l with
  | nil => simp [alterList, findIn, Ne.symm h]
  | cons e rest ih =>
    obtain ⟨k, v⟩ := e
    simp only [alterList]
    split
    · simp [findIn, Ne.symm h]
    · split
      · rename_i heq; subst heq; simp [findIn, Ne.symm h]
      · simp [findIn, ih]

@[simp] theorem get?_empty (name : String) : (empty : NameMap β).get? name = none := rfl

theorem get?_alter (m : NameMap β) (name other : String) (f : Option β → β) :
    (m.alter name f).get? other = if other = name then some (f (m.get? name)) else m.get? other := by
  split
  · rename_i h; subst h; exact findIn_alterList_self m.ascending
  · rename_i h; exact findIn_alterList_ne h

theorem get?_insert (m : NameMap β) (name other : String) (value : β) :
    (m.insert name value).get? other = if other = name then some value else m.get? other :=
  get?_alter m name other _

theorem findIn_eq_some_iff {name : String} {value : β} {l : List (String × β)}
    (ascending : l.Pairwise fun a b => a.1 < b.1) : findIn name l = some value ↔ (name, value) ∈ l := by
  induction l with
  | nil => exact ⟨fun h => (nomatch h), fun h => (nomatch h)⟩
  | cons e rest ih =>
    obtain ⟨k, v⟩ := e
    obtain ⟨first, others⟩ := List.pairwise_cons.1 ascending
    rw [findIn, List.mem_cons, Prod.mk.injEq]
    split
    · rename_i same
      subst same
      have absent : (k, value) ∉ rest := fun h => String.lt_irrefl k (first _ h)
      simp only [Option.some.injEq, true_and, absent, or_false]
      exact eq_comm
    · rename_i other
      simp only [Ne.symm other, false_and, false_or, ih others]

theorem get?_eq_some_iff {m : NameMap β} {name : String} {value : β} :
    m.get? name = some value ↔ (name, value) ∈ m.entries := findIn_eq_some_iff m.ascending

/-- a name that is found first in one list is not before the first name of another list that it is found in -/
theorem not_before_first {k k' : String} {v v' : β} {r₁ r₂ : List (String × β)}
    (ascending : ((k, v) :: r₁).Pairwise fun a b => a.1 < b.1)
    (same : findIn k' ((k, v) :: r₁) = findIn k' ((k', v') :: r₂)) : ¬k' < k := by
  intro before
  have absent : findIn k' ((k, v) :: r₁) = none := findIn_eq_none_of_lt fun a ha => by
    rcases List.mem_cons.1 ha with rfl | later
    · exact before
    · exact String.lt_trans before ((List.pairwise_cons.1 ascending).1 a later)
  rw [absent] at same
  simp [findIn] at same

theorem eq_of_findIn_eq {l₁ l₂ : List (String × β)} (h₁ : l₁.Pairwise fun a b => a.1 < b.1)
    (h₂ : l₂.Pairwise fun a b => a.1 < b.1) (h : ∀ n, findIn n l₁ = findIn n l₂) : l₁ = l₂ := by
  induction l₁ generalizing l₂ with
  | nil =>
    cases l₂ with
    | nil => rfl
    | cons e _ => have := h e.1; simp [findIn] at this
  | cons e r₁ ih =>
    obtain ⟨k, v⟩ := e
    cases l₂ with
    | nil => have := h k; simp [findIn] at this
    | cons e' r₂ =>
      obtain ⟨k', v'⟩ := e'
      obtain ⟨hk, hr₁⟩ := List.pairwise_cons.1 h₁
      obtain ⟨hk', hr₂⟩ := List.pairwise_cons.1 h₂
      have hkk : k = k' := Decidable.byContradiction fun hne =>
        not_before_first h₁ (h k') (lt_of_not_lt_of_ne (not_before_first h₂ (h k).symm) hne)
      subst hkk
      have hv : v = v' := by have := h k; simpa [findIn] using this
      subst hv
      rw [ih hr₁ hr₂ fun n => ?_]
      by_cases hn : k = n
      · subst hn; rw [findIn_eq_none_of_lt hk, findIn_eq_none_of_lt hk']
      · simpa [findIn, hn] using h n

/-- maps with the same look-ups are equal -/
@[ext] theorem ext {m₁ m₂ : NameMap β} (h : ∀ n, m₁.get? n = m₂.get? n) : m₁ = m₂ := by
  have := eq_of_findIn_eq m₁.ascending m₂.ascending h
  cases m₁; cases m₂; simp_all

/-! ## Entries put in one after another -/

theorem alterList_fresh {name : String} {f : Option β → β} {l : List (String × β)} (h : ∀ e ∈ l, e.1 < name) :
    alterList name f l = l ++ [(name, f none)] := by
  induction l with
  | nil => rfl
  | cons e rest ih =>
    obtain ⟨k, v⟩ := e
    have below : k < name := h (k, v) List.mem_cons_self
    have other : name ≠ k := fun e => String.lt_irrefl k (e ▸ below)
    rw [alterList, if_neg (String.lt_asymm below), if_neg other, ih fun e he => h e (List.mem_cons_of_mem _ he)]
    rfl

theorem alterList_last {name : String} {f : Option β → β} {l : List (String × β)} {v : β}
    (h : ∀ e ∈ l, e.1 < name) : alterList name f (l ++ [(name, v)]) = l ++ [(name, f (some v))] := by
  induction l with
  | nil =>
    rw [List.nil_append, alterList, if_neg (String.lt_irrefl name), if_pos rfl]
    rfl
  | cons e rest ih =>
    obtain ⟨k, w⟩ := e
    have below : k < name := h (k, w) List.mem_cons_self
    have other : name ≠ k := fun e => String.lt_irrefl k (e ▸ below)
    rw [List.cons_append, alterList, if_neg (String.lt_asymm below), if_neg other,
      ih fun e he => h e (List.mem_cons_of_mem _ he)]
    rfl

theorem get?_foldl_insert {l : List (String × β)} (nodup : (l.map Prod.fst).Nodup) (m : NameMap β) (name : String)
    (value : β) : (l.foldl (fun m e => m.insert e.1 e.2) m).get? name = some value ↔
      (name, value) ∈ l ∨ name ∉ l.map Prod.fst ∧ m.get? name = some value := by
  induction l generalizing m with
  | nil => simp
  | cons e rest ih =>
    obtain ⟨k, v⟩ := e
    obtain ⟨fresh, distinct⟩ := List.nodup_cons.1 nodup
    rw [List.foldl_cons, ih distinct, get?_insert, List.mem_cons, Prod.mk.injEq, List.map_cons, List.mem_cons, not_or]
    by_cases same : name = k
    · subst same
      have absent : (name, value) ∉ rest := fun h => fresh (List.mem_map.2 ⟨(name, value), h, rfl⟩)
      simp [absent, fresh, eq_comm]
    · simp [same]

theorem eq_empty_of_isEmpty {m : NameMap β} (h : m.isEmpty = true) : m = empty := by
  obtain ⟨entries, ascending⟩ := m
  obtain rfl := List.isEmpty_iff.1 h
  rfl

theorem names_nodup (m : NameMap β) : (m.entries.map Prod.fst).Nodup := by
  refine List.Pairwise.map _ ?_ m.ascending
  intro a b below same
  exact String.lt_irrefl b.1 ((show a.1 = b.1 from same) ▸ below)

theorem ofList_of_perm {l : List (String × β)} {m : NameMap β} (perm : l.Perm m.entries) : ofList l = m := by
  apply ext
  intro name
  apply Option.ext
  intro value
  rw [ofList, get?_foldl_insert ((perm.map Prod.fst).nodup_iff.2 m.names_nodup), perm.mem_iff, get?_empty,
    get?_eq_some_iff]
  simp

theorem mem_of_foldl_insert {l : List (String × β)} {m : NameMap β} {name : String} {value : β}
    (h : (l.foldl (fun m e => m.insert e.1 e.2) m).get? name = some value) : (name, value) ∈ l ∨ m.get? name = some value := by
  induction l generalizing m with
  | nil => exact Or.inr h
  | cons e rest ih =>
    rcases ih h with later | before
    · exact Or.inl (List.mem_cons_of_mem e later)
    · rw [get?_insert] at before
      split at before
      · rename_i same
        obtain rfl := Option.some.inj before
        exact Or.inl (List.mem_cons.2 (Or.inl (Prod.ext same rfl)))
      · exact Or.inr before

theorem mem_of_mem_ofList {l : List (String × β)} {e : String × β} (h : e ∈ (ofList l).entries) : e ∈ l := by
  rcases mem_of_foldl_insert (get?_eq_some_iff.2 h) with inList | inEmpty
  · exact inList
  · cases inEmpty

end NameMap
end ProcessBuild
