/-
Written values end where they end: from what is written for a value, and whatever follows it, the value and the rest are
found again. Nothing but numbers can be prolonged by what follows, so that does not go on a number; and two binary
numbers are taken to be printed differently (`FloatsApart`).
- `escapedChars_inj`: a string ends at its quote, for every content.
- `text_append_inj`: integers are printed differently from each other and from binary numbers.
- `compactChars_append_inj`: what is written for a value is no proper start of what is written for another.
-/
import ProcessBuild.Json.Writer
import Mathlib.Data.List.Infix

namespace ProcessBuild

open Number (Binary64)

/-! ## Numbers -/

namespace JsonNumber

/-- a character of a printed number -/
def inNumber (c : Char) : Bool := c.isDigit || ['-', '+', '.', 'e'].contains c

/-- a text that does not go on a number -/
def EndsNumber (r : List Char) : Prop := ∀ c ∈ r.head?, inNumber c = false

theorem endsNumber_nil : EndsNumber [] := fun _ h => nomatch h

theorem endsNumber_cons {c : Char} {r : List Char} (other : inNumber c = false) : EndsNumber (c :: r) := by
  rintro _ ⟨⟩
  exact other

theorem isDigit_of_mem_digits {n : Nat} {c : Char} (h : c ∈ digits n) : c.isDigit = true :=
  Nat.isDigit_of_mem_toDigits (by decide) (by decide) h

theorem digits_inj {m n : Nat} (same : digits m = digits n) : m = n := by
  rw [← @Nat.ofDigitChars_ten_toDigits m, show Nat.toDigits 10 m = Nat.toDigits 10 n from same,
    Nat.ofDigitChars_ten_toDigits]

/-- the characters of an integer are digits, but for its sign -/
theorem mem_intText {i : Int} {c : Char} (h : c ∈ intText i) : c.isDigit = true ∨ c = '-' := by
  unfold intText at h
  split at h
  · rcases List.mem_cons.1 h with sign | digit
    · exact .inr sign
    · exact .inl (isDigit_of_mem_digits digit)
  · exact .inl (isDigit_of_mem_digits h)

theorem intText_inj {i j : Int} (same : intText i = intText j) : i = j := by
  have unsigned : ∀ {n : Nat} {r : List Char}, '-' :: r ≠ digits n := by
    intro n r signed
    have digit := isDigit_of_mem_digits (signed ▸ List.mem_cons_self : '-' ∈ digits n)
    exact absurd digit (by decide)
  unfold intText at same
  split at same <;> split at same
  · have := digits_inj (List.cons.inj same).2
    omega
  · exact absurd same unsigned
  · exact absurd same.symm unsigned
  · have := digits_inj same
    omega

/-- a binary number is printed with a point or an exponent -/
theorem floatText_marked (x : Binary64) : '.' ∈ floatText x ∨ 'e' ∈ floatText x := by
  have decimal : ∀ d, '.' ∈ decimalText d ∨ 'e' ∈ decimalText d := by
    intro d
    unfold decimalText
    dsimp only
    split
    · left
      split
      · simp
      · split <;> simp
    · right
      simp
  unfold floatText
  simp only [List.mem_append]
  by_cases zero : x.isZero = true
  · rw [if_pos zero]
    exact .inl (.inr (by decide))
  · rw [if_neg zero]
    exact (decimal _).imp .inr .inr

/-- integers are printed differently from each other and from binary numbers -/
theorem text_inj {a b : JsonNumber} (same : a.text = b.text)
    (apart : ∀ x y, a = .float x → b = .float y → floatText x = floatText y → x = y) : a = b := by
  have unmarked : ∀ {i : Int} {x : Binary64}, intText i ≠ floatText x := by
    intro i x same
    rcases floatText_marked x with marked | marked
    · rcases mem_intText (same ▸ marked) with h | h
      · exact absurd h (by decide)
      · exact absurd h (by decide)
    · rcases mem_intText (same ▸ marked) with h | h
      · exact absurd h (by decide)
      · exact absurd h (by decide)
  match a, b with
  | .int i, .int j => rw [intText_inj same]
  | .int i, .float y => exact absurd same unmarked
  | .float x, .int j => exact absurd same.symm unmarked
  | .float x, .float y => rw [apart x y rfl rfl same]

theorem inNumber_of_isDigit {c : Char} (digit : c.isDigit = true) : inNumber c = true := by
  rw [inNumber, digit, Bool.true_or]

theorem inNumber_digits (n : Nat) : ∀ c ∈ digits n, inNumber c = true :=
  fun _ h => inNumber_of_isDigit (isDigit_of_mem_digits h)

theorem inNumber_scientificMantissa {ds : List Char} (h : ∀ c ∈ ds, inNumber c = true) :
    ∀ c ∈ scientificMantissa ds, inNumber c = true := by
  match ds with
  | [] => exact h
  | [_] => exact h
  | c :: d :: r =>
    obtain ⟨first, rest⟩ := List.forall_mem_cons.1 h
    exact List.forall_mem_cons.2 ⟨first, List.forall_mem_cons.2 ⟨by decide, rest⟩⟩

theorem inNumber_decimalText (d : Number.Shortest.Decimal) : ∀ c ∈ decimalText d, inNumber c = true := by
  have zeros : ∀ n, ∀ c ∈ List.replicate n '0', inNumber c = true := by
    intro n c h
    rw [List.eq_of_mem_replicate h]
    decide
  have point : inNumber '.' = true := by decide
  have zero : inNumber '0' = true := by decide
  have ds := inNumber_digits d.digits
  unfold decimalText
  dsimp only
  split
  · split
    · exact List.forall_mem_append.2 ⟨List.forall_mem_append.2 ⟨ds, zeros _⟩, by simp [point, zero]⟩
    · split
      · exact List.forall_mem_append.2 ⟨fun c h => ds c (List.mem_of_mem_take h),
          List.forall_mem_cons.2 ⟨point, fun c h => ds c (List.mem_of_mem_drop h)⟩⟩
      · exact List.forall_mem_cons.2 ⟨zero, List.forall_mem_cons.2 ⟨point, List.forall_mem_append.2 ⟨zeros _, ds⟩⟩⟩
  · refine List.forall_mem_append.2 ⟨inNumber_scientificMantissa ds,
      List.forall_mem_cons.2 ⟨by decide, List.forall_mem_cons.2 ⟨?_, inNumber_digits _⟩⟩⟩
    split <;> decide

theorem inNumber_text (n : JsonNumber) : ∀ c ∈ n.text, inNumber c = true := by
  cases n with
  | int i =>
    intro c h
    rcases mem_intText h with digit | rfl
    · exact inNumber_of_isDigit digit
    · decide
  | float x =>
    show ∀ c ∈ floatText x, inNumber c = true
    unfold floatText
    refine List.forall_mem_append.2 ⟨?_, ?_⟩
    · split
      · exact List.forall_mem_singleton.2 (by decide)
      · exact List.forall_mem_nil _
    · split
      · exact List.all_eq_true.1 (by decide)
      · exact inNumber_decimalText _

theorem text_ne_nil (n : JsonNumber) : n.text ≠ [] := by
  cases n with
  | int i =>
    show intText i ≠ []
    unfold intText
    split
    · exact List.cons_ne_nil _ _
    · exact Nat.toDigits_ne_nil
  | float x => exact fun empty => (floatText_marked x).elim (fun h => by simp_all [text]) fun h => by simp_all [text]

/-- a printed number ends where no character of a number follows -/
theorem text_append_inj {a b : JsonNumber} {r s : List Char} (hr : EndsNumber r) (hs : EndsNumber s)
    (same : a.text ++ r = b.text ++ s) : a.text = b.text ∧ r = s := by
  have taken : ∀ (n : JsonNumber) {r : List Char}, EndsNumber r → (n.text ++ r).takeWhile inNumber = n.text := by
    intro n r ends
    rw [List.takeWhile_append_of_pos (inNumber_text n)]
    cases r with
    | nil => simp
    | cons c r => simp [ends c rfl]
  have texts : a.text = b.text := by rw [← taken a hr, same, taken b hs]
  exact ⟨texts, List.append_cancel_left (texts ▸ same)⟩

end JsonNumber

/-! ## Strings -/

namespace Json

/-- the characters that a string does not hold as they are -/
def escapedChars : List Char := '"' :: '\\' :: (List.range 0x20).map Char.ofNat

theorem escapeChar_of_not_mem {c : Char} (plain : c ∉ escapedChars) : escapeChar c = [c] := by
  have listed : ∀ d ∈ escapedChars, c ≠ d := fun d isEscaped same => plain (same ▸ isEscaped)
  have above : ¬c.toNat < 0x20 := fun control =>
    plain (List.mem_cons_of_mem _ (List.mem_cons_of_mem _
      (List.mem_map.2 ⟨c.toNat, List.mem_range.2 control, Char.ofNat_toNat c⟩)))
  unfold escapeChar
  simp only [listed '"' (by decide), listed '\\' (by decide), listed (Char.ofNat 8) (by decide),
    listed (Char.ofNat 12) (by decide), listed '\n' (by decide), listed '\r' (by decide), listed '\t' (by decide), above,
    if_false]

/-- no escape is a start of another one -/
theorem escapes_apart : ∀ c ∈ escapedChars, ∀ d ∈ escapedChars, (escapeChar c).isPrefixOf (escapeChar d) = true → c = d := by
  have apart : (escapedChars.all fun c => escapedChars.all fun d =>
      !(escapeChar c).isPrefixOf (escapeChar d) || c == d) = true := by decide +kernel
  intro c isFirst d isSecond starts
  have pair := List.all_eq_true.1 (List.all_eq_true.1 apart c isFirst) d isSecond
  simpa [starts] using pair

theorem head_escape : ∀ c ∈ escapedChars, (escapeChar c).head? = some '\\' := by
  have heads : (escapedChars.all fun c => (escapeChar c).head? == some '\\') = true := by decide +kernel
  intro c isEscaped
  exact eq_of_beq (List.all_eq_true.1 heads c isEscaped)

/-- an escaped character is no start of another one -/
theorem escapeChar_append_inj {c d : Char} {r s : List Char} (same : escapeChar c ++ r = escapeChar d ++ s) :
    c = d ∧ r = s := by
  -- an escape starts with a backslash, which is never written as it is
  have mixed : ∀ {c d : Char} {r s : List Char}, c ∈ escapedChars → d ∉ escapedChars →
      escapeChar c ++ r ≠ escapeChar d ++ s := by
    intro c d r s ofC ofD same
    have head := congrArg List.head? same
    rw [escapeChar_of_not_mem ofD, List.head?_append, head_escape c ofC] at head
    exact ofD (Option.some.inj head ▸ by decide)
  have chars : c = d := by
    by_cases ofC : c ∈ escapedChars <;> by_cases ofD : d ∈ escapedChars
    · have starts : escapeChar c <+: escapeChar d ++ s := ⟨r, same⟩
      rcases List.prefix_or_prefix_of_prefix starts (List.prefix_append _ _) with h | h
      · exact escapes_apart c ofC d ofD (List.isPrefixOf_iff_prefix.2 h)
      · exact (escapes_apart d ofD c ofC (List.isPrefixOf_iff_prefix.2 h)).symm
    · exact absurd same (mixed ofC ofD)
    · exact absurd same.symm (mixed ofD ofC)
    · rw [escapeChar_of_not_mem ofC, escapeChar_of_not_mem ofD] at same
      exact (List.cons.inj same).1
  exact ⟨chars, List.append_cancel_left (chars ▸ same)⟩

/-- an escaped character does not start with the quote that ends a string -/
theorem escapeChar_append_ne_quote {c : Char} {r s : List Char} : escapeChar c ++ r ≠ '"' :: s := by
  intro same
  have head := congrArg List.head? same
  rw [List.head?_append] at head
  by_cases escaped : c ∈ escapedChars
  · rw [head_escape c escaped] at head
    exact absurd (Option.some.inj head) (by decide)
  · rw [escapeChar_of_not_mem escaped] at head
    exact escaped (Option.some.inj head ▸ by decide)

theorem flatMap_escapeChar_inj {a b r s : List Char}
    (same : a.flatMap escapeChar ++ '"' :: r = b.flatMap escapeChar ++ '"' :: s) : a = b ∧ r = s := by
  induction a generalizing b with
  | nil =>
    cases b with
    | nil => exact ⟨rfl, (List.cons.inj same).2⟩
    | cons d b =>
      rw [List.flatMap_cons, List.append_assoc] at same
      exact absurd same.symm escapeChar_append_ne_quote
  | cons c a ih =>
    cases b with
    | nil =>
      rw [List.flatMap_cons, List.append_assoc] at same
      exact absurd same escapeChar_append_ne_quote
    | cons d b =>
      rw [List.flatMap_cons, List.flatMap_cons, List.append_assoc, List.append_assoc] at same
      obtain ⟨rfl, others⟩ := escapeChar_append_inj same
      obtain ⟨rfl, rest⟩ := ih others
      exact ⟨rfl, rest⟩

/-- **A string ends at its quote**, whatever it holds. -/
theorem quote_append_inj {a b : String} {r s : List Char} (same : quote a ++ r = quote b ++ s) : a = b ∧ r = s := by
  unfold quote at same
  simp only [List.cons_append, List.append_assoc, List.nil_append, List.cons.injEq, true_and] at same
  obtain ⟨chars, rest⟩ := flatMap_escapeChar_inj same
  exact ⟨String.toList_inj.1 chars, rest⟩

/-! ## Values -/

/-- the kinds of values that the first character tells -/
inductive Shape where
  | null
  | bool
  | number
  | string
  | array
  | object

/-- the kind of a value -/
def shape : Json → Shape
  | .null => .null
  | .bool _ => .bool
  | .number _ => .number
  | .string _ => .string
  | .array _ => .array
  | .object _ => .object

/-- the kind that a first character tells, if a value starts with it -/
def shapeAt (c : Char) : Option Shape :=
  if c = 'n' then some .null
  else if c = 't' ∨ c = 'f' then some .bool
  else if c = '"' then some .string
  else if c = '[' then some .array
  else if c = '\x7b' then some .object
  else if JsonNumber.inNumber c then some .number
  else none

theorem shapeAt_of_inNumber {c : Char} (h : JsonNumber.inNumber c = true) : shapeAt c = some .number := by
  have other : ∀ d, JsonNumber.inNumber d = false → c ≠ d := by
    rintro d apart rfl
    rw [h] at apart
    cases apart
  unfold shapeAt
  simp only [other 'n' (by decide), other 't' (by decide), other 'f' (by decide), other '"' (by decide),
    other '[' (by decide), other '\x7b' (by decide), h, or_false, if_false, if_true]

/-- the first character of what is written tells the kind of the value -/
theorem shapeAt_compactChars (v : Json) : ∃ c r, compactChars v = c :: r ∧ shapeAt c = some v.shape := by
  cases v with
  | null => exact ⟨_, _, rfl, rfl⟩
  | bool b => cases b <;> exact ⟨_, _, rfl, rfl⟩
  | number n =>
    obtain ⟨c, r, text⟩ := List.exists_cons_of_ne_nil n.text_ne_nil
    exact ⟨c, r, text, shapeAt_of_inNumber (n.inNumber_text c (text ▸ List.mem_cons_self))⟩
  | string s => exact ⟨_, _, rfl, rfl⟩
  | array items => exact ⟨_, _, rfl, rfl⟩
  | object members => exact ⟨_, _, rfl, rfl⟩

theorem shape_eq_of_append {v w : Json} {r s : List Char} (same : compactChars v ++ r = compactChars w ++ s) :
    v.shape = w.shape := by
  obtain ⟨c, x, ofV, shapeV⟩ := shapeAt_compactChars v
  obtain ⟨d, y, ofW, shapeW⟩ := shapeAt_compactChars w
  rw [ofV, ofW] at same
  rw [(List.cons.inj same).1, shapeW] at shapeV
  exact (Option.some.inj shapeV).symm

/-- no value starts with a character that ends a list -/
theorem compactChars_append_ne {v : Json} {c : Char} {r s : List Char} (closing : shapeAt c = none) :
    compactChars v ++ r ≠ c :: s := by
  intro same
  obtain ⟨d, y, written, shape⟩ := shapeAt_compactChars v
  rw [written] at same
  rw [(List.cons.inj same).1, closing] at shape
  cases shape

mutual

/-- the binary numbers in a value -/
def floats : Json → List Binary64
  | .number (.float x) => [x]
  | .array items => floatsOfItems items
  | .object members => floatsOfMembers members
  | _ => []

/-- the binary numbers in the elements of a list -/
def floatsOfItems : List Json → List Binary64
  | [] => []
  | v :: rest => v.floats ++ floatsOfItems rest

/-- the binary numbers in the values of members -/
def floatsOfMembers : List (String × Json) → List Binary64
  | [] => []
  | m :: rest => floatsOfMember m ++ floatsOfMembers rest

/-- the binary numbers in the value of a member -/
def floatsOfMember : String × Json → List Binary64
  | (_, v) => v.floats

end

/-- the binary numbers of one list and those of another are printed differently where they differ -/
def FloatsApart (xs ys : List Binary64) : Prop :=
  ∀ x ∈ xs, ∀ y ∈ ys, JsonNumber.floatText x = JsonNumber.floatText y → x = y

theorem FloatsApart.of_append {xs xs' ys ys' : List Binary64} (apart : FloatsApart (xs ++ xs') (ys ++ ys')) :
    FloatsApart xs ys ∧ FloatsApart xs' ys' :=
  ⟨fun x hx y hy => apart x (List.mem_append_left _ hx) y (List.mem_append_left _ hy),
    fun x hx y hy => apart x (List.mem_append_right _ hx) y (List.mem_append_right _ hy)⟩

/-- what follows an element does not go on a number -/
theorem endsNumber_items (items : List Json) (r : List Char) :
    JsonNumber.EndsNumber (compactItems false items ++ ']' :: r) := by
  cases items with
  | nil => exact JsonNumber.endsNumber_cons (by decide)
  | cons v rest => exact JsonNumber.endsNumber_cons (by decide)

theorem endsNumber_members (members : List (String × Json)) (r : List Char) :
    JsonNumber.EndsNumber (compactMembers false members ++ '\x7d' :: r) := by
  cases members with
  | nil => exact JsonNumber.endsNumber_cons (by decide)
  | cons m rest => exact JsonNumber.endsNumber_cons (by decide)

/-- there is a further element, or there is none, also where the comma before the first one is left out -/
theorem compactItems_cons_ne {first : Bool} {v : Json} {rest : List Json} {r s : List Char} :
    compactItems first (v :: rest) ++ r ≠ ']' :: s := by
  rw [compactItems, List.append_assoc, List.append_assoc]
  cases first with
  | true => exact compactChars_append_ne (by decide)
  | false => exact fun same => absurd (List.cons.inj same).1 (by decide)

theorem compactMembers_cons_ne {first : Bool} {m : String × Json} {rest : List (String × Json)} {r s : List Char} :
    compactMembers first (m :: rest) ++ r ≠ '\x7d' :: s := by
  obtain ⟨k, v⟩ := m
  rw [compactMembers, List.append_assoc, List.append_assoc, compactMember]
  cases first with
  | true => exact fun same => absurd (List.cons.inj same).1 (by decide)
  | false => exact fun same => absurd (List.cons.inj same).1 (by decide)

mutual

/-- **A written value ends where it ends**: from it and what follows it, which does not go on a number, both are found
again. -/
theorem compactChars_append_inj (v w : Json) {r s : List Char} (apart : FloatsApart v.floats w.floats)
    (hr : JsonNumber.EndsNumber r) (hs : JsonNumber.EndsNumber s) (same : compactChars v ++ r = compactChars w ++ s) :
    v = w ∧ r = s := by
  have shapes := shape_eq_of_append same
  -- by the first character both values are of one kind
  match v, w, shapes with
  | .null, .null, _ => exact ⟨rfl, List.append_cancel_left same⟩
  | .bool true, .bool true, _ => exact ⟨rfl, List.append_cancel_left same⟩
  | .bool false, .bool false, _ => exact ⟨rfl, List.append_cancel_left same⟩
  | .bool true, .bool false, _ => exact absurd (List.cons.inj same).1 (by decide)
  | .bool false, .bool true, _ => exact absurd (List.cons.inj same).1 (by decide)
  | .number a, .number b, _ =>
    obtain ⟨texts, rest⟩ := JsonNumber.text_append_inj hr hs same
    rw [JsonNumber.text_inj texts ?_]
    · exact ⟨rfl, rest⟩
    · rintro x y rfl rfl
      exact apart x (by simp [floats]) y (by simp [floats])
  | .string a, .string b, _ =>
    obtain ⟨rfl, rest⟩ := quote_append_inj same
    exact ⟨rfl, rest⟩
  | .array xs, .array ys, _ =>
    rw [floats, floats] at apart
    simp only [compactChars, List.cons_append, List.append_assoc, List.nil_append, List.cons.injEq, true_and] at same
    obtain ⟨rfl, rest⟩ := compactItems_append_inj true xs ys apart same
    exact ⟨rfl, rest⟩
  | .object ms, .object ns, _ =>
    rw [floats, floats] at apart
    simp only [compactChars, List.cons_append, List.append_assoc, List.nil_append, List.cons.injEq, true_and] at same
    obtain ⟨rfl, rest⟩ := compactMembers_append_inj true ms ns apart same
    exact ⟨rfl, rest⟩

theorem compactItems_append_inj (first : Bool) (xs ys : List Json) {r s : List Char}
    (apart : FloatsApart (floatsOfItems xs) (floatsOfItems ys))
    (same : compactItems first xs ++ ']' :: r = compactItems first ys ++ ']' :: s) : xs = ys ∧ r = s := by
  match xs, ys with
  | [], [] => exact ⟨rfl, (List.cons.inj same).2⟩
  | [], w :: ys => exact absurd same.symm compactItems_cons_ne
  | v :: xs, [] => exact absurd same compactItems_cons_ne
  | v :: xs, w :: ys =>
    rw [floatsOfItems, floatsOfItems] at apart
    simp only [compactItems, List.append_assoc] at same
    obtain ⟨rfl, others⟩ := compactChars_append_inj v w apart.of_append.1 (endsNumber_items xs r) (endsNumber_items ys s)
      (List.append_cancel_left same)
    obtain ⟨rfl, rest⟩ := compactItems_append_inj false xs ys apart.of_append.2 others
    exact ⟨rfl, rest⟩

theorem compactMembers_append_inj (first : Bool) (ms ns : List (String × Json)) {r s : List Char}
    (apart : FloatsApart (floatsOfMembers ms) (floatsOfMembers ns))
    (same : compactMembers first ms ++ '\x7d' :: r = compactMembers first ns ++ '\x7d' :: s) : ms = ns ∧ r = s := by
  match ms, ns with
  | [], [] => exact ⟨rfl, (List.cons.inj same).2⟩
  | [], n :: ns => exact absurd same.symm compactMembers_cons_ne
  | m :: ms, [] => exact absurd same compactMembers_cons_ne
  | m :: ms, n :: ns =>
    rw [floatsOfMembers, floatsOfMembers] at apart
    simp only [compactMembers, List.append_assoc] at same
    obtain ⟨rfl, others⟩ := compactMember_append_inj m n apart.of_append.1 (endsNumber_members ms r)
      (endsNumber_members ns s) (List.append_cancel_left same)
    obtain ⟨rfl, rest⟩ := compactMembers_append_inj false ms ns apart.of_append.2 others
    exact ⟨rfl, rest⟩

theorem compactMember_append_inj (m n : String × Json) {r s : List Char}
    (apart : FloatsApart (floatsOfMember m) (floatsOfMember n)) (hr : JsonNumber.EndsNumber r)
    (hs : JsonNumber.EndsNumber s) (same : compactMember m ++ r = compactMember n ++ s) : m = n ∧ r = s := by
  match m, n with
  | (k, v), (l, w) =>
    rw [floatsOfMember, floatsOfMember] at apart
    rw [compactMember, compactMember, List.append_assoc, List.append_assoc] at same
    obtain ⟨rfl, others⟩ := quote_append_inj same
    obtain ⟨rfl, rest⟩ := compactChars_append_inj v w apart hr hs (List.cons.inj others).2
    exact ⟨rfl, rest⟩

end

end Json
end ProcessBuild
