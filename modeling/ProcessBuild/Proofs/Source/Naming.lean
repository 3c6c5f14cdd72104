/-
The names that generated source is made of. An identifier made of any text has name characters only and starts with no
digit; a text that is such an identifier already is left alone.
- `identifierChars_eq_self`: an identifier of name characters stands for itself.
- `processTypeName_eq`: the type of a process has letters and digits only, starts with no digit and ends in `Process`.
- `pathSegments_processTypeName`: the path to the type of a process is that type alone.
-/
import ProcessBuild.Source.Naming

namespace ProcessBuild.Source

open Text

/-! ## Characters -/

/-- what holds of every character of a list is decided for the characters of the list, one by one -/
theorem forall_chars {p : Char → Prop} [DecidablePred p] {s : List Char} (h : (s.all fun c => decide (p c)) = true) :
    ∀ c ∈ s, p c := fun c hc => of_decide_eq_true (List.all_eq_true.1 h c hc)

theorem toNat_ofNat {n : Nat} (h : n.isValidChar) : (Char.ofNat n).toNat = n := by
  unfold Char.ofNat
  rw [dif_pos h]
  rfl

theorem isAlnum_nameChar {c : Char} (h : isAlnum c = true) : isNameChar c = true := by
  unfold isNameChar
  rw [h, Bool.true_or]

theorem isNameChar_nameChar (c : Char) : isNameChar (nameChar c) = true := by
  unfold nameChar
  split
  · assumption
  · decide

theorem nameChar_eq_self {c : Char} (h : isNameChar c = true) : nameChar c = c := if_pos h

/-- a number is written in digits -/
theorem isDigit_of_mem_toString {n : Nat} {c : Char} (h : c ∈ (toString n).toList) : isDigit c = true := by
  have core : c ∈ Nat.toDigits 10 n := by
    rw [← Nat.toList_repr]
    exact h
  have digit := Char.isDigit_iff_toNat.1 (Nat.isDigit_of_mem_toDigits (by decide) (by decide) core)
  simp only [isDigit, Bool.and_eq_true, decide_eq_true_eq]
  exact digit

theorem isAlnum_upper {c : Char} (h : isAlnum c = true) : isAlnum (upper c) = true := by
  unfold upper
  split
  · rename_i between
    have low : 97 ≤ c.toNat := between.1
    have high : c.toNat ≤ 122 := between.2
    have valid : (c.toNat - 32).isValidChar := Or.inl (by omega)
    simp only [isAlnum, isLetter, isDigit, toNat_ofNat valid, Bool.or_eq_true, Bool.and_eq_true,
      decide_eq_true_eq]
    omega
  · exact h

theorem isAlnum_not_separator {c : Char} (h : isAlnum c = true) : c ≠ ':' ∧ c ≠ '.' := by
  constructor
  · rintro rfl
    revert h
    decide
  · rintro rfl
    revert h
    decide

/-! ## Identifiers -/

/-- what every identifier made of a text is: name characters, at least one, and no digit in front -/
structure IsName (s : List Char) : Prop where
  chars : ∀ c ∈ s, isNameChar c = true
  front : ∃ c rest, s = c :: rest ∧ isDigit c = false

theorem isName_identifierChars (s : List Char) : IsName (identifierChars s) := by
  cases s with
  | nil => exact ⟨forall_chars (by decide), _, _, rfl, by decide⟩
  | cons c rest =>
    have others : ∀ x ∈ rest.map nameChar, isNameChar x = true := by
      intro x hx
      obtain ⟨y, -, rfl⟩ := List.mem_map.1 hx
      exact isNameChar_nameChar y
    rw [identifierChars]
    split
    · rename_i digit
      refine ⟨fun x hx => ?_, '_', c :: rest.map nameChar, rfl, by decide⟩
      rcases List.mem_append.1 hx with front | back
      · rcases List.mem_cons.1 front with rfl | last
        · decide
        · rw [List.mem_singleton.1 last]
          exact isAlnum_nameChar (by unfold isAlnum; rw [digit, Bool.or_true])
      · exact others x back
    · rename_i digit
      refine ⟨fun x hx => ?_, nameChar c, rest.map nameChar, rfl, ?_⟩
      · rcases List.mem_cons.1 hx with rfl | back
        · exact isNameChar_nameChar c
        · exact others x back
      · unfold nameChar
        split
        · exact Bool.eq_false_iff.2 digit
        · decide

/-- an identifier stands for itself -/
theorem identifierChars_eq_self {s : List Char} (h : IsName s) : identifierChars s = s := by
  obtain ⟨c, rest, rfl, digit⟩ := h.front
  rw [identifierChars, digit, if_neg Bool.false_ne_true, nameChar_eq_self (h.chars c List.mem_cons_self)]
  have others : rest.map nameChar = rest := by
    refine (List.map_congr_left fun x hx => nameChar_eq_self (h.chars x (List.mem_cons_of_mem c hx))).trans ?_
    exact List.map_id' rest
  rw [others, List.singleton_append]

theorem isName_identifierOf (s : String) : IsName (identifierOf s).toList := by
  unfold identifierOf
  rw [String.toList_ofList]
  exact isName_identifierChars s.toList

theorem identifierOf_eq_self {s : String} (h : IsName s.toList) : identifierOf s = s := by
  unfold identifierOf
  rw [identifierChars_eq_self h, String.ofList_toList]

/-! ## The type of a process -/

theorem isAlnum_camelCase (fresh : Bool) (s : List Char) : ∀ c ∈ camelCase fresh s, isAlnum c = true := by
  induction s generalizing fresh with
  | nil => simp [camelCase]
  | cons x rest ih =>
    intro c hc
    rw [camelCase] at hc
    split at hc
    · rename_i alnum
      rcases List.mem_cons.1 hc with rfl | later
      · split
        · exact isAlnum_upper alnum
        · exact alnum
      · exact ih false c later
    · exact ih true c hc

/-- **The type of a process** has letters and digits only, starts with no digit and ends in `Process`. -/
theorem processTypeName_eq (id : String) :
    ∃ front, processTypeName id = String.ofList (front ++ ['P', 'r', 'o', 'c', 'e', 's', 's']) ∧
      (∀ c ∈ front, isAlnum c = true) ∧ ∃ c rest, front = c :: rest ∧ isDigit c = false := by
  unfold processTypeName
  have alnum := isAlnum_camelCase true id.toList
  cases e : camelCase true id.toList with
  | nil => exact ⟨['P'], rfl, forall_chars (by decide), 'P', [], rfl, by decide⟩
  | cons c rest =>
    rw [e] at alnum
    cases digit : isDigit c with
    | true =>
      refine ⟨'P' :: c :: rest, by simp [digit], fun x hx => ?_, 'P', _, rfl, by decide⟩
      rcases List.mem_cons.1 hx with rfl | later
      · decide
      · exact alnum x later
    | false => exact ⟨c :: rest, by simp [digit], alnum, c, rest, rfl, digit⟩

theorem isAlnum_processTypeName {id : String} : ∀ c ∈ (processTypeName id).toList, isAlnum c = true := by
  obtain ⟨front, e, alnum, -⟩ := processTypeName_eq id
  intro c hc
  have ending : ∀ c ∈ ['P', 'r', 'o', 'c', 'e', 's', 's'], isAlnum c = true := forall_chars (by decide)
  rw [e, String.toList_ofList, List.mem_append] at hc
  rcases hc with hc | hc
  · exact alnum c hc
  · exact ending c hc

theorem isName_processTypeName (id : String) : IsName (processTypeName id).toList := by
  obtain ⟨front, e, -, c, rest, rfl, digit⟩ := processTypeName_eq id
  have spelled : (processTypeName id).toList = c :: (rest ++ ['P', 'r', 'o', 'c', 'e', 's', 's']) := by
    rw [e, String.toList_ofList, List.cons_append]
  exact ⟨fun c hc => isAlnum_nameChar (isAlnum_processTypeName c hc), c, _, spelled, digit⟩

theorem identifierOf_processTypeName (id : String) : identifierOf (processTypeName id) = processTypeName id :=
  identifierOf_eq_self (isName_processTypeName id)

/-- letters and digits hold no separator of a path -/
theorem splitPath_of_alnum (s current : List Char) (h : ∀ c ∈ s, isAlnum c = true) :
    splitPath current s = [current.reverse ++ s] := by
  induction s generalizing current with
  | nil => simp [splitPath]
  | cons c rest ih =>
    have ⟨colon, dot⟩ := isAlnum_not_separator (h c List.mem_cons_self)
    have step : splitPath current (c :: rest) = splitPath (c :: current) rest := by
      rw [splitPath]
      · exact if_neg dot
      · rintro r rfl
        exact absurd rfl colon
    rw [step, ih (c :: current) fun x hx => h x (List.mem_cons_of_mem c hx)]
    simp

theorem pathSegments_processTypeName (id : String) : pathSegments (processTypeName id) = [processTypeName id] := by
  have name := isName_processTypeName id
  obtain ⟨c, rest, e, -⟩ := name.front
  unfold pathSegments
  rw [splitPath_of_alnum _ [] isAlnum_processTypeName, List.reverse_nil, List.nil_append]
  have filled : (processTypeName id).toList.isEmpty = false := by rw [e]; rfl
  simp only [List.filter, filled, Bool.not_false, List.map, identifierChars_eq_self name, String.ofList_toList]

end ProcessBuild.Source
