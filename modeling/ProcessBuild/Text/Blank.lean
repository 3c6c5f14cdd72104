/-
White space. A character is blank when Unicode gives it the property White_Space; trimming drops blank characters
from both ends and nothing else.
-/

namespace ProcessBuild.Text

/-- the characters with the property White_Space -/
def isBlank (c : Char) : Bool :=
  let n := c.toNat
  (9 ≤ n && n ≤ 13) || n == 0x20 || n == 0x85 || n == 0xa0 || n == 0x1680 || (0x2000 ≤ n && n ≤ 0x200a) ||
    n == 0x2028 || n == 0x2029 || n == 0x202f || n == 0x205f || n == 0x3000

def trimStart (s : List Char) : List Char := s.dropWhile isBlank

def trimEnd (s : List Char) : List Char := (s.reverse.dropWhile isBlank).reverse

def trim (s : List Char) : List Char := trimEnd (trimStart s)

def isBlankText (s : String) : Bool := s.toList.all isBlank

theorem trim_eq_nil_of_all (s : List Char) (h : s.all isBlank = true) : trim s = [] := by
  have : trimStart s = [] := by
    induction s with
    | nil => rfl
    | cons c r ih =>
      simp only [List.all_cons, Bool.and_eq_true] at h
      simp [trimStart, List.dropWhile, h.1]
      simpa [trimStart] using ih h.2
  simp [trim, this, trimEnd]

end ProcessBuild.Text
