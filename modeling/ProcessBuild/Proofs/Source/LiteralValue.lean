/-
What the literals of generated source stand for. The value of a string is read escape by escape; that of an integer is
read from its sign, its digits and its suffix, and there is none if the type that the suffix names does not hold it.
- `stringValue_literal`: a text that is written as a string is the value of the string, whatever characters it has.
- `constant_integer`: an integer is read back from its tokens with its type, the least of its type as well.
-/
import Mathlib.Algebra.Group.Int.Defs
import ProcessBuild.Builder.Statement
import ProcessBuild.Proofs.Source.Identifiers

namespace ProcessBuild.Source

open Text Lexer Literal

/-! ## Strings -/

/-- the characters of a string from a place inside it to the quote that closes it, which has to come last; `skip` of
the next characters are read already -/
def stringChars (skip : Nat) : List Char → Option (List Char)
  | [] => none
  | x :: r =>
    match skip with
    | m + 1 => stringChars m r
    | 0 =>
      if x = '"' then if r.isEmpty then some [] else none
      else if x = '\r' then
        -- the two characters of a line end count as one
        match r with
        | '\n' :: _ => stringChars 0 r
        | _ => none
      else if x = '\\' then
        match escapeWidth .text true r with
        | some w => (stringChars w r).map ((escaped r).toList ++ ·)
        | none => none
      else (stringChars 0 r).map (x :: ·)

/-- the text that a string literal stands for; raw strings are left out -/
def stringValue (text : String) : Option String :=
  match text.toList with
  | '"' :: r => (stringChars 0 r).map String.ofList
  | _ => none

theorem stringChars_skip (e t : List Char) : stringChars e.length (e ++ t) = stringChars 0 t := by
  induction e with
  | nil => rfl
  | cons x e ih =>
    rw [List.cons_append, List.length_cons, stringChars]
    exact ih

/-- a character that is written in a string is read back -/
theorem stringChars_written {c : Char} {w : List Char} (written : Written c w) (t : List Char) :
    stringChars 0 (w ++ t) = (stringChars 0 t).map (c :: ·) := by
  rcases written with ⟨e, rfl, isEscape⟩ | ⟨rfl, quote, return_, slash⟩
  · rw [List.cons_append]
    conv => lhs; unfold stringChars
    simp only [Char.reduceEq, if_false, if_true, isEscape.width, isEscape.value, Option.toList_some, stringChars_skip]
    rfl
  · rw [List.singleton_append]
    conv => lhs; unfold stringChars
    simp only [quote, return_, slash, if_false]

theorem stringChars_literalBody (s : List Char) : stringChars 0 (literalBody s ++ ['"']) = some s := by
  induction s with
  | nil => rfl
  | cons c rest ih =>
    obtain ⟨w, spelled, written⟩ := literalBody_cons c rest
    rw [spelled, List.append_assoc, stringChars_written written, ih]
    rfl

/-- **A text that is written as a string** is the value of the string. -/
theorem stringValue_literal (s : String) : stringValue (Text.literal s) = some s := by
  have spelled : (Text.literal s).toList = '"' :: (literalBody s.toList ++ ['"']) := String.toList_ofList
  unfold stringValue
  rw [spelled]
  simp only [stringChars_literalBody, Option.map_some, String.ofList_toList]

/-! ## Integers -/

inductive IntegerType where
  | int32
  | int64
  deriving DecidableEq, Repr

namespace IntegerType

def suffix : IntegerType → String
  | int32 => "i32"
  | int64 => "i64"

/-- whether a type holds an integer -/
def holds (i : Int) : IntegerType → Bool
  | int32 => -2 ^ 31 ≤ i && i < 2 ^ 31
  | int64 => -2 ^ 63 ≤ i && i < 2 ^ 63

def ofSuffix? (suffix : List Char) : Option IntegerType :=
  if suffix = ['i', '3', '2'] then some int32 else if suffix = ['i', '6', '4'] then some int64 else none

theorem ofSuffix?_suffix (type : IntegerType) : ofSuffix? type.suffix.toList = some type := by
  cases type <;> rfl

theorem suffix_front (type : IntegerType) : ∃ more, type.suffix.toList = 'i' :: more := by
  cases type <;> exact ⟨_, rfl⟩

end IntegerType

/-- what a literal stands for; an integer comes with the type that its suffix names -/
inductive Constant where
  | flag (b : Bool)
  | text (s : String)
  | integer (type : IntegerType) (i : Int)
  deriving DecidableEq, Repr

/-- the integer of a decimal literal with a suffix, after a minus sign or without one -/
def integerValue (negative : Bool) (text : String) : Option Constant :=
  let magnitude : Int := Nat.ofDigitChars 10 (text.toList.takeWhile isDigit) 0
  let i := if negative then -magnitude else magnitude
  (IntegerType.ofSuffix? (text.toList.dropWhile isDigit)).bind fun type =>
    if type.holds i then some (.integer type i) else none

/-- the constant that tokens stand for: a truth value, a string, or an integer with its minus sign -/
def constant? : List Token → Option Constant
  | [.word w] => if w = "true" then some (.flag true) else if w = "false" then some (.flag false) else none
  | [.literal text] => if isNumber text then integerValue false text else (stringValue text).map .text
  | [.punct '-' _, .literal text] => integerValue true text
  | _ => none

theorem takeWhile_digits {ds : List Char} {c : Char} (more : List Char) (h : ∀ d ∈ ds, isDigit d = true)
    (ends : isDigit c = false) :
    (ds ++ c :: more).takeWhile isDigit = ds ∧ (ds ++ c :: more).dropWhile isDigit = c :: more := by
  rw [List.takeWhile_append_of_pos h, List.dropWhile_append_of_pos h, List.takeWhile_cons, List.dropWhile_cons, ends]
  simp

/-- a magnitude with a suffix is read back -/
theorem integerValue_magnitude (negative : Bool) (n : Nat) (type : IntegerType)
    (holds : type.holds (if negative then -(n : Int) else n) = true) :
    integerValue negative (toString n ++ type.suffix) = some (.integer type (if negative then -(n : Int) else n)) := by
  obtain ⟨more, front⟩ := type.suffix_front
  have digits : ∀ d ∈ (toString n).toList, isDigit d = true := fun d hd => isDigit_of_mem_toString hd
  have parts := takeWhile_digits more digits startsSuffix_signed.noDigit
  have value : Nat.ofDigitChars 10 (toString n).toList 0 = n := by
    have decimal : (toString n).toList = Nat.toDigits 10 n := Nat.toList_repr
    rw [decimal]
    exact Nat.ofDigitChars_toDigits (by decide) (by decide)
  unfold integerValue
  rw [String.toList_append, front, parts.1, parts.2, ← front, IntegerType.ofSuffix?_suffix, value]
  exact if_pos holds

theorem isNumber_magnitude (n : Nat) (suffix : String) : isNumber (toString n ++ suffix) = true := by
  have decimal : (toString n).toList = Nat.toDigits 10 n := Nat.toList_repr
  obtain ⟨d, rest, e⟩ := List.exists_cons_of_ne_nil (Nat.toDigits_ne_nil (b := 10) (n := n))
  have digit : isDigit d = true := isDigit_of_mem_toString (n := n) (by rw [decimal, e]; exact List.mem_cons_self)
  unfold isNumber
  rw [String.toList_append, decimal, e, List.cons_append, List.head?_cons, Option.any_some, digit]

/-- **An integer is read back** from its tokens if its type holds it. -/
theorem constant_integer {type : IntegerType} {i : Int} (holds : type.holds i = true) :
    constant? (Builder.integerTokens i type.suffix) = some (.integer type i) := by
  unfold Builder.integerTokens
  by_cases negative : i < 0
  · have magnitude : -(i.natAbs : Int) = i := by omega
    rw [if_pos negative]
    have read := integerValue_magnitude true i.natAbs type (by rw [if_pos rfl, magnitude]; exact holds)
    rwa [if_pos rfl, magnitude] at read
  · have magnitude : (i.natAbs : Int) = i := by omega
    rw [if_neg negative, List.nil_append, constant?, isNumber_magnitude, if_pos rfl]
    have read := integerValue_magnitude false i.natAbs type (by rw [if_neg Bool.false_ne_true, magnitude]; exact holds)
    rwa [if_neg Bool.false_ne_true, magnitude] at read

/-- the least integer of 32 bits is written as a minus sign and a magnitude that the type does not hold -/
example : constant? [.mark '-', .literal "2147483648i32"] = some (.integer .int32 (-2147483648)) ∧
    constant? [.literal "2147483648i32"] = none := by decide

theorem constant_string (s : String) : constant? [.string s] = some (.text s) := by
  have noNumber : isNumber (Text.literal s) = false := by
    unfold isNumber Text.literal
    rw [String.toList_ofList]
    rfl
  rw [Token.string, constant?, noNumber, if_neg Bool.false_ne_true, stringValue_literal, Option.map_some]

/-- a string literal tells its text -/
theorem Token.string_inj {s t : String} (h : Token.string s = Token.string t) : s = t := by
  have value := constant_string s
  rw [h, constant_string t] at value
  exact (Constant.text.inj (Option.some.inj value)).symm

theorem constant_flag (b : Bool) : constant? [Builder.flagToken b] = some (.flag b) := by
  cases b <;> rfl

end ProcessBuild.Source
