/-
Reading back what was written. A part of a value is read back when its reader, given the arranged form of what its
writer makes of a thing, gives that thing. Texts, numbers and switches are read back as they are, lists, sets and maps
when their parts are; a member is read back when its value is, and one that was left out when its default is the thing.
- `present_append`, `present_toList`, `present_leftOutIf`: written members as fields.
- `Arranges.object_present`: fields with distinct keys are found again, those that are left out as well.
- `list_read`, `nameSet_read`, `nameMap_read`: lists, sets and maps.
- `member_read`, `member_default`, `member_optional`: members that are there, that are left out for their default, and
  that are left out when there is nothing.
-/
import ProcessBuild.Json.Decode
import ProcessBuild.Proofs.Json.MemberOrder
import ProcessBuild.Proofs.Results

namespace ProcessBuild

namespace Json

/-! ## Fields -/

/-- the members of the fields that have a value -/
def present (fields : List (String × Option Json)) : List (String × Json) :=
  fields.flatMap fun e => e.2.toList.map fun v => (e.1, v)

/-- a value that is left out when it is the default -/
def leftOutIf (isDefault : Bool) (v : Json) : Option Json := if isDefault then none else some v

section Fields

variable {fields others : List (String × Option Json)}

theorem present_cons (e : String × Option Json) (fields : List (String × Option Json)) :
    present (e :: fields) = (e.2.toList.map fun v => (e.1, v)) ++ present fields := rfl

theorem present_append : present (fields ++ others) = present fields ++ present others := List.flatMap_append

theorem present_toList {α : Type} (key : String) (w : α → Json) (o : Option α) :
    (o.toList.map fun a => (key, w a)) = present [(key, o.map w)] := by
  cases o with
  | none => rfl
  | some a => rfl

theorem present_leftOutIf (key : String) (isDefault : Bool) (v : Json) :
    (if isDefault then [] else [(key, v)]) = present [(key, leftOutIf isDefault v)] := by
  cases isDefault with
  | true => rfl
  | false => rfl

theorem mem_present {m : String × Json} (isMember : m ∈ present fields) : (m.1, some m.2) ∈ fields := by
  obtain ⟨e, isField, written⟩ := List.mem_flatMap.1 isMember
  obtain ⟨v, isValue, rfl⟩ := List.mem_map.1 written
  exact Option.mem_toList.1 isValue ▸ isField

theorem keys_present_sublist : ((present fields).map Prod.fst).Sublist (fields.map Prod.fst) := by
  induction fields with
  | nil => exact List.Sublist.refl _
  | cons e fields ih =>
    obtain ⟨k, o⟩ := e
    cases o with
    | none => exact ih.cons k
    | some v => exact ih.cons_cons k

theorem member?_present_of_notMem {key : String} (absent : key ∉ fields.map Prod.fst) :
    member? key (present fields) = none := by
  induction fields with
  | nil => rfl
  | cons e fields ih =>
    obtain ⟨k, o⟩ := e
    obtain ⟨other, later⟩ := not_or.1 (mt List.mem_cons.2 absent)
    rw [present_cons, member?_append, ih later]
    cases o with
    | none => rfl
    | some v => simp [Ne.symm other]

theorem member?_present (nodup : (fields.map Prod.fst).Nodup) {key : String} {o : Option Json}
    (isField : (key, o) ∈ fields) : member? key (present fields) = o := by
  induction fields with
  | nil => cases isField
  | cons e fields ih =>
    obtain ⟨k, p⟩ := e
    obtain ⟨fresh, distinct⟩ := List.nodup_cons.1 nodup
    rw [present_cons, member?_append]
    rcases List.mem_cons.1 isField with same | later
    · obtain ⟨rfl, rfl⟩ := Prod.mk.inj same
      rw [member?_present_of_notMem fresh]
      cases o with
      | none => rfl
      | some v => simp
    · have other : k ≠ key := by
        rintro rfl
        exact fresh (List.mem_map.2 ⟨(k, o), later, rfl⟩)
      rw [ih distinct later]
      cases p with
      | none => rfl
      | some v => simp [other]

/-- **Fields with distinct keys** are found in an arranged object, those with a value and those without. -/
theorem Arranges.object_present {f : Json → Json} (arranges : Arranges f) (fields : List (String × Option Json))
    (nodup : (fields.map Prod.fst).Nodup) :
    ∃ ms, f (.object (present fields)) = .object ms ∧ ∀ e ∈ fields, member? e.1 ms = e.2.map f := by
  obtain ⟨ms, arranged, found⟩ := arranges.members (keys_present_sublist.nodup nodup)
  refine ⟨ms, arranged, ?_⟩
  intro e isField
  rw [found, member?_present nodup isField]

end Fields

end Json

namespace Decode

open Json

/-! ## Parts -/

section Parts

variable {f : Json → Json} (arranges : Arranges f) {α : Type} {g : Json → Decoded α} {w : α → Json}

include arranges

theorem string_read (s : String) : string (f (.string s)) = .ok s := by
  rw [arranges.string]
  rfl

theorem path_read (s : String) : path (f (.string s)) = .ok s := by
  rw [arranges.string]
  rfl

theorem bool_read (b : Bool) : bool (f (.bool b)) = .ok b := by
  rw [arranges.bool]
  rfl

theorem word64_read (n : UInt64) : word64 (f (.ofNat n.toNat)) = .ok n := by
  have bound := n.toNat_lt
  have fits : (0 : Int) ≤ n.toNat ∧ (n.toNat : Int) < 0x10000000000000000 := by omega
  rw [ofNat, arranges.number, word64, if_pos fits, Int.toNat_natCast, UInt64.ofNat_toNat]

theorem int32_read (i : Int32) : int32 (f (.ofInt i.toInt)) = .ok i := by
  have below := i.toInt_lt
  have above := i.le_toInt
  have fits : -0x80000000 ≤ i.toInt ∧ i.toInt < 0x80000000 := by omega
  rw [ofInt, arranges.number, int32, if_pos fits, Int32.ofInt_toInt]

theorem optional_string_read (s : String) : optional string (f (.string s)) = .ok (some s) := by
  rw [arranges.string]
  rfl

theorem optional_bool_read (b : Bool) : optional bool (f (.bool b)) = .ok (some b) := by
  rw [arranges.bool]
  rfl

/-- **A list** is read back when its elements are. -/
theorem list_read {xs : List α} (read : ∀ x ∈ xs, g (f (w x)) = .ok x) : list g (f (.array (xs.map w))) = .ok xs := by
  rw [arranges.array, list, List.map_map, mapM_eq_ok_iff, List.forall₂_map_left_iff, List.forall₂_same]
  exact read

theorem optional_list_read {xs : List α} (read : ∀ x ∈ xs, g (f (w x)) = .ok x) :
    optional (list g) (f (.array (xs.map w))) = .ok (some xs) := by
  have whole := list_read arranges read
  rw [arranges.array] at whole ⊢
  show some <$> list g (.array _) = _
  rw [whole]
  rfl

/-- **A set of names** is read back. -/
theorem nameSet_read (s : NameSet) : nameSet (f (ofStrings s.toList)) = .ok s := by
  rw [nameSet, ofStrings, list_read arranges fun name _ => string_read arranges name]
  exact congrArg Except.ok s.ofList_toList

/-- **A map** is read back when its values are, in whatever order its entries are. -/
theorem nameMap_read {m : NameMap α} (read : ∀ e ∈ m.entries, g (f (w e.2)) = .ok e.2) :
    nameMap g (f (.object (m.entries.map fun e => (e.1, w e.2)))) = .ok m := by
  have distinct : ((m.entries.map fun e => (e.1, w e.2)).map Prod.fst).Nodup := by
    rw [List.map_map]
    exact m.names_nodup
  obtain ⟨ms, arranged, perm⟩ := arranges.object _ distinct
  rw [List.map_map] at perm
  -- the entries that are read are those of the map in the order of the arranged members
  obtain ⟨entries, rfl, permuted⟩ : Relation.Comp (· = List.map _ ·) List.Perm ms m.entries := by
    rw [List.eq_map_comp_perm]
    exact perm
  have each : (entries.map fun e => (e.1, f (w e.2))).mapM (entry g) = .ok entries := by
    rw [mapM_eq_ok_iff, List.forall₂_map_left_iff, List.forall₂_same]
    intro e he
    unfold entry
    rw [read e (permuted.mem_iff.1 he)]
    rfl
  rw [arranged]
  calc NameMap.ofList <$> (entries.map fun e => (e.1, f (w e.2))).mapM (entry g)
    _ = NameMap.ofList <$> .ok entries := by rw [each]
    _ = .ok m := congrArg Except.ok (NameMap.ofList_of_perm permuted)

end Parts

/-! ## Members -/

section Members

variable {ms : List (String × Json)} {key : String} {α : Type} {g : Json → Decoded α} {v : Json} {a d : α}

/-- **A member that is there** is read. -/
theorem member_read (found : member? key ms = some v) (read : g v = .ok a) : member ms key g = .ok (some a) := by
  rw [member, found]
  show some <$> g v = _
  rw [read]
  rfl

/-- a member that is left out is not read -/
theorem member_absent (found : member? key ms = none) : member ms key g = .ok none := by
  rw [member, found]

/-- **A member that is left out for its default** is read back. -/
theorem member_default {isDefault : Bool} {f : Json → Json} (found : member? key ms = (leftOutIf isDefault v).map f)
    (read : g (f v) = .ok a) (default : isDefault = true → a = d) : ∃ r, member ms key g = .ok r ∧ r.getD d = a := by
  cases isDefault with
  | true => exact ⟨none, member_absent found, (default rfl).symm⟩
  | false => exact ⟨some a, member_read found read, rfl⟩

/-- **A member that is left out when there is nothing** is read back. -/
theorem member_optional {w : α → Json} {f : Json → Json} {o : Option α} (found : member? key ms = (o.map w).map f)
    (read : ∀ a, optional g (f (w a)) = .ok (some a)) :
    ∃ r, member ms key (optional g) = .ok r ∧ r.getD none = o := by
  cases o with
  | none => exact ⟨none, member_absent found, rfl⟩
  | some a => exact ⟨some (some a), member_read found (read a), rfl⟩

end Members

end Decode

/-! ## What a reader yields -/

namespace Yields

open Decode Json

variable {α : Type} {P : α → Prop}

theorem wrongType (v : Json) (expected : String) : Yields P (Decode.wrongType v expected) := error _

variable {d : α} {g : Json → Decoded α}

theorem member {ms : List (String × Json)} {key : String} (default : P d) (h : ∀ m ∈ ms, Yields P (g m.2)) :
    Yields (fun o => P (o.getD d)) (member ms key g) := by
  unfold Decode.member
  split
  · exact ok default
  · rename_i v found
    intro o made
    obtain ⟨a, read, rfl⟩ := map_eq_ok_iff.1 made
    exact h _ (mem_of_member? found) a read

theorem elementOr {items : List Json} {i : Nat} (default : P d) (h : ∀ v ∈ items, Yields P (g v)) :
    Yields P (elementOr d items i g) := by
  unfold Decode.elementOr
  split
  · rename_i v found
    exact h v (List.mem_of_getElem? found)
  · exact ok default

end Yields

end ProcessBuild
