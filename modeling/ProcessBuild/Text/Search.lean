/-
Finding text in text: first occurrences, lines, and the pieces between separators.
-/
import ProcessBuild.Text.Blank

namespace ProcessBuild.Text

/-- what follows the start of a text, if the text starts with it -/
def afterStart? : List Char → List Char → Option (List Char)
  | [], s => some s
  | _ :: _, [] => none
  | p :: ps, c :: r => if p = c then afterStart? ps r else none

/-- what follows the first occurrence of a pattern -/
def afterFirst? (pattern : List Char) : List Char → Option (List Char)
  | [] => afterStart? pattern []
  | c :: r => (afterStart? pattern (c :: r)).or (afterFirst? pattern r)

def occursIn (pattern s : List Char) : Bool := (afterFirst? pattern s).isSome

/-- the pieces of a text between separators, one more than there are separators -/
def pieces (separator : Char) : List Char → List (List Char)
  | [] => [[]]
  | c :: r =>
    if c = separator then [] :: pieces separator r
    else
      match pieces separator r with
      | [] => [[c]]
      | p :: ps => (c :: p) :: ps

/-- pieces put together with a separator between each two -/
def joinPieces (separator : Char) : List (List Char) → List Char
  | [] => []
  | [p] => p
  | p :: ps => p ++ separator :: joinPieces separator ps

/-- the lines of a text without blanks around them -/
def trimmedLines (s : List Char) : List (List Char) := (pieces '\n' s).map trim

/-- what comes before a character that occurs -/
def before? (mark : Char) (s : List Char) : Option (List Char) :=
  if s.contains mark then some (s.takeWhile (· ≠ mark)) else none

/-- what comes before the last occurrence of a character that occurs -/
def beforeLast? (mark : Char) (s : List Char) : Option (List Char) :=
  if s.contains mark then some ((s.reverse.dropWhile (· ≠ mark)).drop 1).reverse else none

theorem pieces_ne_nil (separator : Char) (s : List Char) : pieces separator s ≠ [] := by
  cases s with
  | nil => simp [pieces]
  | cons c r =>
    simp only [pieces]
    split
    · simp
    · split <;> simp

/-- nothing is lost between the pieces -/
theorem joinPieces_pieces (separator : Char) (s : List Char) : joinPieces separator (pieces separator s) = s := by
  induction s with
  | nil => rfl
  | cons c r ih =>
    cases hp : pieces separator r with
    | nil => exact absurd hp (pieces_ne_nil separator r)
    | cons p ps =>
      rw [hp] at ih
      by_cases h : c = separator
      · simp [pieces, h, hp, joinPieces, ih]
      · cases ps with
        | nil => simpa [pieces, h, hp, joinPieces] using ih
        | cons q qs => simpa [pieces, h, hp, joinPieces] using ih

end ProcessBuild.Text
