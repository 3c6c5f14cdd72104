/-
Values that are read from a text. The reader puts each member of an object among those that it has read, so whatever it
reads can be kept: the members of every object are in ascending key order, each key once.
- `isSorted_readMembers`, `isSorted_readItems`: what one member, or one element, preserves, and so all of them do.
- `isSorted_parse`: the value that a whole text stands for is in key order.
-/
import ProcessBuild.Json.Reader
import ProcessBuild.Proofs.Json.MemberOrder
import ProcessBuild.Proofs.Results

namespace ProcessBuild.Json

open Reader

/-- the value that is read is in key order -/
def ReadsSorted (o : Outcome (Json × Cursor)) : Prop := Yields (fun r => r.1.IsSorted) o

theorem isSorted_readWord {value : Json} (isSorted : value.IsSorted) (letters : List Char) (c : Cursor) :
    ReadsSorted (readWord value letters c) := by
  induction letters generalizing c with
  | nil => exact .ok isSorted
  | cons x rest ih =>
    rw [readWord]
    split
    · exact .error _
    · split
      · exact ih c.advance
      · exact .error _

section Parts

variable {readValue : Cursor → Outcome (Json × Cursor)} (sorted : ∀ c, ReadsSorted (readValue c))

include sorted

/-- elements are in key order when those before are and each one that is read is -/
theorem isSorted_readItems (fuel : Nat) (first : Bool) {before : List Json} (h : ∀ v ∈ before, v.IsSorted) (c : Cursor) :
    Yields (fun r => ∀ v ∈ r.1, v.IsSorted) (readItems readValue fuel first before c) := by
  induction fuel generalizing first before c with
  | zero => exact .error _
  | succ fuel ih =>
    rw [readItems]
    refine .bind fun next _ => ?_
    cases next with
    | closed c => exact .ok fun v isElement => h v (List.mem_reverse.1 isElement)
    | part c =>
      refine .bind fun r read => ?_
      exact ih false (List.forall_mem_cons.2 ⟨sorted c r read, h⟩) r.2

/-- members are in key order when those before are and the value of each one that is read is -/
theorem isSorted_readMembers (fuel : Nat) (first : Bool) {before : List (String × Json)} (h : (object before).IsSorted)
    (c : Cursor) : Yields (fun r => (object r.1).IsSorted) (readMembers readValue fuel first before c) := by
  induction fuel generalizing first before c with
  | zero => exact .error _
  | succ fuel ih =>
    rw [readMembers]
    refine .bind fun next _ => ?_
    cases next with
    | closed c => exact .ok h
    | part c =>
      refine .bind fun key _ => .bind fun colon _ => .bind fun r read => ?_
      exact ih false (isSorted_putMember h key.1 (sorted colon r read)) r.2

end Parts

/-- a value is in key order at every depth that the reader goes to -/
theorem isSorted_readValue (fuel depth : Nat) (c : Cursor) : ReadsSorted (readValue fuel depth c) := by
  induction depth generalizing c with
  | zero => exact .error _
  | succ depth ih =>
    rw [readValue]
    dsimp only
    split
    · exact .error _
    · exact @isSorted_readWord .null trivial _ _
    · exact @isSorted_readWord (.bool true) trivial _ _
    · exact @isSorted_readWord (.bool false) trivial _ _
    · exact .bind fun _ _ => .ok trivial
    · exact .bind fun _ _ => .ok trivial
    · split
      · exact .error _
      · have elements := isSorted_readItems ih fuel true (List.forall_mem_nil _) (skipSpace c).advance
        refine .bind fun r read => .ok ?_
        exact areSorted_iff.2 (elements r read)
    · split
      · exact .error _
      · have members := isSorted_readMembers ih fuel true ⟨List.Pairwise.nil, trivial⟩ (skipSpace c).advance
        exact .bind fun r read => .ok (members r read)
    · split
      · exact .bind fun _ _ => .ok trivial
      · exact .error _

/-- **The value that a text stands for** is in key order. -/
theorem isSorted_parse (text : String) : Yields IsSorted (Json.parse text) := by
  refine .bind fun r read => ?_
  have isSorted := isSorted_readValue _ _ _ r read
  dsimp only
  split
  · exact .ok isSorted
  · exact .error _

end ProcessBuild.Json
