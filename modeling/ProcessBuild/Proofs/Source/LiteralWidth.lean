/-
The widths of the literals that generated source holds. A literal is recognised as far as it was written and no
further, so no text inside a string ends it early.
- `literalBody_cons`: each character of a text is written as an escape that stands for it, or as itself.
- `width_string`: a text written as a string, whatever characters it has.
- `width_number`: a decimal number with a suffix.
- `width_raw`: a raw string without quotes in it.
-/
import Mathlib.Tactic.SplitIfs
import ProcessBuild.Source.Token
import ProcessBuild.Proofs.Source.Lexing

namespace ProcessBuild.Source.Lexer

open Text Literal

/-! ## Escapes -/

theorem hexDigit_facts : ∀ i < 16, isHexDigit (hexDigit i) = true ∧ hexValue (hexDigit i) = i := by decide

theorem hex_of_lt {n : Nat} (h : n < 16) : hex n = [hexDigit n] := by
  unfold hex
  exact dif_pos h

theorem hex_of_ge {n : Nat} (h : ¬n < 16) : hex n = hex (n / 16) ++ [hexDigit (n % 16)] := by
  conv => lhs; unfold hex
  exact dif_neg h

theorem length_hex_le_succ {k n : Nat} (h : (hex (n / 16)).length ≤ k) : (hex n).length ≤ k + 1 := by
  by_cases small : n < 16
  · rw [hex_of_lt small]
    exact Nat.succ_le_succ (Nat.zero_le _)
  · rw [hex_of_ge small, List.length_append, List.length_singleton]
    exact Nat.succ_le_succ h

/-- a code point has at most six digits -/
theorem length_hex_le {n : Nat} (h : n < 0x1000000) : (hex n).length ≤ 6 := by
  have first : (hex (n / 16 / 16 / 16 / 16 / 16)).length ≤ 1 := by
    rw [hex_of_lt (by omega)]
    exact Nat.le_refl 1
  have third := length_hex_le_succ (length_hex_le_succ first)
  exact length_hex_le_succ (length_hex_le_succ (length_hex_le_succ third))

/-- the digits of a code point are read back as the code point -/
theorem codePoint_hex (m n : Nat) (t : List Char) (short : (hex m).length ≤ 6) :
    codePoint 0 0 n (hex m ++ t) = codePoint m (hex m).length (n + (hex m).length) t := by
  induction m using Nat.strongRecOn generalizing t with
  | ind m ih =>
    by_cases small : m < 16
    · obtain ⟨isHex, value⟩ := hexDigit_facts m small
      rw [hex_of_lt small, List.singleton_append, codePoint, isHex]
      simp [value]
    · have last := hex_of_ge small
      have length : (hex m).length = (hex (m / 16)).length + 1 := by
        rw [last, List.length_append, List.length_singleton]
      have less : m / 16 < m := Nat.div_lt_self (by omega) (by decide)
      obtain ⟨isHex, value⟩ := hexDigit_facts (m % 16) (Nat.mod_lt _ (by decide))
      have notYet : (hex (m / 16)).length ≠ 6 := by omega
      rw [length, last, List.append_assoc, ih (m / 16) less _ (by omega), List.singleton_append, codePoint, isHex]
      simp only [if_true, notYet, if_false, value, Nat.add_assoc]
      rw [Nat.div_add_mod']

/-- an escape after its backslash is as wide as it was written -/
theorem stringEnd_escape {n : Nat} (e t : List Char) (h : escapeWidth .text true (e ++ t) = some e.length) :
    stringEnd .text n 0 ('\\' :: (e ++ t)) = stringEnd .text (n + 1 + e.length) 0 t := by
  have skip : ∀ (e : List Char) (n : Nat), stringEnd .text n e.length (e ++ t) = stringEnd .text (n + e.length) 0 t := by
    intro e
    induction e with
    | nil => exact fun n => rfl
    | cons x e ih =>
      intro n
      rw [List.cons_append, List.length_cons, stringEnd, ih, Nat.add_assoc, Nat.add_comm 1]
  have step : stringEnd .text n 0 ('\\' :: (e ++ t)) = stringEnd .text (n + 1) e.length (e ++ t) := by
    conv => lhs; unfold stringEnd
    simp only [Char.reduceEq, ↓reduceIte, h]
  rw [step]
  exact skip e (n + 1)

theorem codePoint_close {c : Char} {digits n : Nat} {t : List Char} (some_digit : digits ≠ 0) :
    codePoint c.toNat digits n ('\x7d' :: t) = some (c.toNat, n + 1) := by
  have valid : c.toNat < 0xd800 ∨ (0xdfff < c.toNat ∧ c.toNat < 0x110000) := c.valid
  have noHex : isHexDigit '\x7d' = false := by decide
  rw [codePoint, noHex, if_neg Bool.false_ne_true, if_neg some_digit, if_neg (by decide), if_pos rfl, if_pos valid]

theorem bracedCodePoint_hex (c : Char) (t : List Char) :
    bracedCodePoint ('\x7b' :: (hex c.toNat ++ '\x7d' :: t)) = some (c.toNat, 1 + (hex c.toNat).length + 1) := by
  have small : c.toNat < 0x1000000 := by
    have valid : c.toNat < 0xd800 ∨ (0xdfff < c.toNat ∧ c.toNat < 0x110000) := c.valid
    omega
  have filled : (hex c.toNat).length ≠ 0 := by
    unfold hex
    split <;> simp
  rw [bracedCodePoint, codePoint_hex _ _ _ (length_hex_le small), codePoint_close filled]

/-- the character that an escape stands for, from what follows its backslash; the end of a line stands for none -/
def escaped : List Char → Option Char
  | [] => none
  | x :: r =>
    if x = 'x' then (twoHexDigits r).map Char.ofNat
    else if x = 'u' then (bracedCodePoint r).map fun p => Char.ofNat p.1
    else if x = '0' then some '\x00'
    else if x = 'n' then some '\n'
    else if x = 'r' then some '\r'
    else if x = 't' then some '\t'
    else if x = '\\' ∨ x = '\'' ∨ x = '"' then some x
    else none

/-- an escape for a character after its backslash: whatever follows, it is as wide as it is written -/
structure IsEscape (c : Char) (e : List Char) : Prop where
  width : ∀ t, escapeWidth .text true (e ++ t) = some e.length
  value : ∀ t, escaped (e ++ t) = some c

theorem isEscape_codePoint (c : Char) : IsEscape c ('u' :: '\x7b' :: (hex c.toNat ++ ['\x7d'])) := by
  have spelled : ∀ t, 'u' :: '\x7b' :: (hex c.toNat ++ ['\x7d']) ++ t = 'u' :: '\x7b' :: (hex c.toNat ++ '\x7d' :: t) := by
    intro t
    simp
  refine ⟨fun t => ?_, fun t => ?_⟩
  · rw [spelled]
    unfold escapeWidth
    simp only [bracedCodePoint_hex c t]
    simp
    omega
  · rw [spelled, escaped, if_neg (by decide), if_pos rfl, bracedCodePoint_hex, Option.map_some, Char.ofNat_toNat]

/-- how a character stands in a string: as an escape for it, or as itself -/
def Written (c : Char) (w : List Char) : Prop :=
  (∃ e, w = '\\' :: e ∧ IsEscape c e) ∨ (w = [c] ∧ c ≠ '"' ∧ c ≠ '\r' ∧ c ≠ '\\')

theorem written_escape {c : Char} (nul : c ≠ '\x00') : Written c (escape c) := by
  unfold escape
  rw [if_neg nul]
  split_ifs with tab return_ newline quote slash hidden
  · exact Or.inl ⟨['t'], rfl, fun _ => rfl, fun _ => congrArg some tab.symm⟩
  · exact Or.inl ⟨['r'], rfl, fun _ => rfl, fun _ => congrArg some return_.symm⟩
  · exact Or.inl ⟨['n'], rfl, fun _ => rfl, fun _ => congrArg some newline.symm⟩
  · exact Or.inl ⟨['"'], rfl, fun _ => rfl, fun _ => congrArg some quote.symm⟩
  · exact Or.inl ⟨['\\'], rfl, fun _ => rfl, fun _ => congrArg some slash.symm⟩
  · exact Or.inl ⟨_, rfl, isEscape_codePoint c⟩
  · exact Or.inr ⟨rfl, quote, return_, slash⟩

/-- **A text is written** character by character. -/
theorem literalBody_cons (c : Char) (rest : List Char) :
    ∃ w, literalBody (c :: rest) = w ++ literalBody rest ∧ Written c w := by
  by_cases nul : c = '\x00'
  · subst nul
    refine ⟨_, if_pos rfl, ?_⟩
    split
    · exact Or.inl ⟨['x', '0', '0'], rfl, fun _ => rfl, fun _ => rfl⟩
    · exact Or.inl ⟨['0'], rfl, fun _ => rfl, fun _ => rfl⟩
  · exact ⟨escape c, if_neg nul, written_escape nul⟩

/-- a character that stands for itself in a string -/
theorem stringEnd_plain {c : Char} {n : Nat} (t : List Char) (quote : c ≠ '"') (return_ : c ≠ '\r') (slash : c ≠ '\\') :
    stringEnd .text n 0 (c :: t) = stringEnd .text (n + 1) 0 t := by
  conv => lhs; unfold stringEnd
  simp only [quote, return_, slash, if_false, StringKind.allows, if_true]

/-- a text as it is written in a string ends at the quote after it -/
theorem stringEnd_literalBody (s r : List Char) (n : Nat) :
    stringEnd .text n 0 (literalBody s ++ '"' :: r) = some (n + (literalBody s).length + 1) := by
  induction s generalizing n with
  | nil => rfl
  | cons c rest ih =>
    obtain ⟨w, spelled, written⟩ := literalBody_cons c rest
    have step : ∀ t, stringEnd .text n 0 (w ++ t) = stringEnd .text (n + w.length) 0 t := by
      intro t
      rcases written with ⟨e, rfl, isEscape⟩ | ⟨rfl, quote, return_, slash⟩
      · rw [List.cons_append, stringEnd_escape e t (isEscape.width t), List.length_cons, Nat.add_assoc, Nat.add_comm 1]
      · exact stringEnd_plain t quote return_ slash
    rw [spelled, List.append_assoc, step, ih, List.length_append]
    congr 1
    omega

/-! ## Widths -/

theorem isWordRest_of_isWordStart {c : Char} (h : isWordStart c = true) : isWordRest c = true := by
  unfold isWordStart at h
  unfold isWordRest
  by_cases ascii : c.toNat < 128
  · simp only [ascii, if_true] at h ⊢
    unfold isAlnum
    rw [Bool.or_eq_true] at h ⊢
    exact h.imp_left fun letter => by rw [letter, Bool.true_or]
  · simp only [ascii, if_false] at h ⊢
    rw [h, Bool.true_or]

theorem wordWidth_of_ends {r : List Char} (ends : Ends r) : wordWidth r = 0 := by
  cases r with
  | nil => rfl
  | cons c r =>
    have stop := (ends c rfl).1
    have noStart : isWordStart c = false := by
      rw [Bool.eq_false_iff]
      intro start
      rw [isWordRest_of_isWordStart start] at stop
      cases stop
    simp only [wordWidth, noStart, Bool.false_eq_true, if_false]

theorem suffixed_of_ends {s r : List Char} (ends : Ends r) : suffixed (s ++ r) s.length = s.length := by
  unfold suffixed
  rw [List.drop_left, wordWidth_of_ends ends, Nat.add_zero]

/-- **A text written as a string** is one literal, whatever characters it has. -/
theorem width_string (s : String) {r : List Char} (ends : Ends r) :
    Literal.width ((Text.literal s).toList ++ r) = some (Text.literal s).toList.length := by
  have spelled : (Text.literal s).toList = '"' :: literalBody s.toList ++ ['"'] := String.toList_ofList
  have string : Literal.string ((Text.literal s).toList ++ r) = some (Text.literal s).toList.length := by
    have joined : '"' :: literalBody s.toList ++ ['"'] ++ r = '"' :: (literalBody s.toList ++ '"' :: r) := by simp
    rw [spelled, joined, Literal.string, stringEnd_literalBody]
    simp only [List.length_cons, List.length_append, List.length_nil]
    congr 1
    omega
  unfold Literal.width
  rw [string, Option.map_some, suffixed_of_ends ends, Option.some_or]

/-- **A raw string** without quotes in it is one literal. -/
theorem width_raw {text r : List Char} (h : ∀ c ∈ text, c ≠ '"' ∧ c ≠ '\r') (ends : Ends r) :
    Literal.width (('r' :: '"' :: (text ++ ['"'])) ++ r) = some ('r' :: '"' :: (text ++ ['"'])).length := by
  -- no mark inside can end the literal: it has no guards, so its first quote is its last
  have close : ∀ n, rawEnd .text 0 n 0 (text ++ '"' :: r) = some (n + text.length + 1) := by
    induction text with
    | nil =>
      intro n
      unfold rawEnd
      exact if_pos ⟨rfl, Nat.zero_le _⟩
    | cons c text ih =>
      intro n
      obtain ⟨quote, return_⟩ := h c List.mem_cons_self
      have step : rawEnd .text 0 n 0 (c :: (text ++ '"' :: r)) = rawEnd .text 0 (n + 1) 0 (text ++ '"' :: r) := by
        conv => lhs; unfold rawEnd
        simp only [quote, return_, false_and, if_false, StringKind.allows, if_true]
      rw [List.cons_append, step, ih fun x hx => h x (List.mem_cons_of_mem c hx), List.length_cons]
      congr 1
      omega
  have string : Literal.string (('r' :: '"' :: (text ++ ['"'])) ++ r) =
      some ('r' :: '"' :: (text ++ ['"'])).length := by
    have spelled : ('r' :: '"' :: (text ++ ['"'])) ++ r = 'r' :: ('"' :: (text ++ '"' :: r)) := by simp
    have guards : hashes ('"' :: (text ++ '"' :: r)) = 0 := rfl
    rw [spelled, Literal.string, rawString]
    simp only [guards, List.drop_zero, Nat.zero_le, if_true, close]
    simp only [List.length_cons, List.length_append, List.length_nil]
    congr 1
    omega
  unfold Literal.width
  rw [string, Option.map_some, suffixed_of_ends ends, Option.some_or]

/-! ### Numbers -/

/-- a character that ends the digits of a number: a suffix that starts with it is no exponent -/
structure StartsSuffix (c : Char) : Prop where
  noDigit : isDigit c = false
  noHexDigit : isHexDigit c = false
  noMark : c ≠ '_' ∧ c ≠ '.' ∧ c ≠ 'e' ∧ c ≠ 'E' ∧ c ≠ 'x' ∧ c ≠ 'o' ∧ c ≠ 'b'

theorem startsSuffix_unsigned : StartsSuffix 'u' := ⟨by decide, by decide, by decide⟩

theorem startsSuffix_signed : StartsSuffix 'i' := ⟨by decide, by decide, by decide⟩

theorem mantissa_digits {ds t : List Char} {c : Char} {n : Nat} (h : ∀ d ∈ ds, isDigit d = true)
    (suffix : StartsSuffix c) : mantissa n false (ds ++ c :: t) = some (n + ds.length, false, none) := by
  obtain ⟨under, point, small, capital, -⟩ := suffix.noMark
  induction ds generalizing n with
  | nil => simp [mantissa, suffix.noDigit, under, point, small, capital]
  | cons d ds ih =>
    rw [List.cons_append, mantissa, h d List.mem_cons_self, Bool.true_or, if_pos rfl,
      ih fun x hx => h x (List.mem_cons_of_mem d hx), List.length_cons]
    congr 2
    omega

theorem hexValue_lt_of_digit {c : Char} (h : isDigit c = true) : hexValue c < 10 := by
  have range := h
  simp only [isDigit, Bool.and_eq_true, decide_eq_true_eq] at range
  rw [hexValue, h, if_pos rfl]
  omega

theorem digits_digits {ds t : List Char} {c : Char} {n : Nat} {empty : Bool} (h : ∀ d ∈ ds, isDigit d = true)
    (suffix : StartsSuffix c) (filled : empty = true → ds ≠ []) :
    digits 10 n empty (ds ++ c :: t) = some (n + ds.length) := by
  induction ds generalizing n empty with
  | nil =>
    have started : empty = false := Bool.eq_false_iff.2 fun e => filled e rfl
    simp [digits, suffix.noDigit, suffix.noHexDigit, suffix.noMark.1, started]
  | cons d ds ih =>
    have small := hexValue_lt_of_digit (h d List.mem_cons_self)
    rw [List.cons_append, digits, h d List.mem_cons_self, if_pos rfl, if_pos small,
      ih (fun x hx => h x (List.mem_cons_of_mem d hx)) (fun e => absurd e Bool.false_ne_true),
      List.length_cons]
    congr 1
    omega

theorem digit_facts {c : Char} (h : isDigit c = true) : c ≠ '"' ∧ c ≠ '\'' ∧ c ≠ 'r' ∧ c ≠ 'b' ∧ c ≠ 'c' := by
  refine ⟨?_, ?_, ?_, ?_, ?_⟩
  all_goals
    rintro rfl
    revert h
    decide

/-- after a first digit neither another one nor a suffix starts another base -/
theorem intDigits_decimal {d c : Char} {t : List Char} (h : isDigit c = true ∨ StartsSuffix c) :
    intDigits (d :: c :: t) = digits 10 0 true (d :: c :: t) := by
  have noBase : c ≠ 'x' ∧ c ≠ 'o' ∧ c ≠ 'b' := by
    rcases h with digit | suffix
    · refine ⟨?_, ?_, ?_⟩
      all_goals
        rintro rfl
        revert digit
        decide
    · exact suffix.noMark.2.2.2.2
  unfold intDigits
  split
  · rename_i e
    exact absurd (List.cons.inj (List.cons.inj e).2).1 noBase.1
  · rename_i e
    exact absurd (List.cons.inj (List.cons.inj e).2).1 noBase.2.1
  · rename_i e
    exact absurd (List.cons.inj (List.cons.inj e).2).1 noBase.2.2
  · rfl

/-- **A decimal number with a suffix** is one literal. -/
theorem width_number {ds suffix r : List Char} {c : Char} {more : List Char} (digit : ∀ d ∈ ds, isDigit d = true)
    (filled : ds ≠ []) (name : IsName suffix) (front : suffix = c :: more) (starts : StartsSuffix c) (ends : Ends r) :
    Literal.width ((ds ++ suffix) ++ r) = some (ds ++ suffix).length := by
  obtain ⟨d, rest, rfl⟩ := List.exists_cons_of_ne_nil filled
  have spelled : (d :: rest ++ suffix) ++ r = d :: (rest ++ c :: (more ++ r)) := by
    rw [front]
    simp
  have isDigit_d := digit d List.mem_cons_self
  have others : ∀ x ∈ rest, isDigit x = true := fun x hx => digit x (List.mem_cons_of_mem d hx)
  obtain ⟨quote, apostrophe, raw, byte, cstring⟩ := digit_facts isDigit_d
  -- what starts with a digit is neither a string nor a character, and without point and exponent no float
  have string : Literal.string (d :: (rest ++ c :: (more ++ r))) = none := by
    simp [Literal.string, quote, raw, byte, cstring]
  have char : Literal.char (d :: (rest ++ c :: (more ++ r))) = none := by simp [Literal.char, apostrophe, byte]
  have float : floatDigits (d :: (rest ++ c :: (more ++ r))) = none := by
    simp [floatDigits, isDigit_d, mantissa_digits others starts]
  have int : intDigits (d :: (rest ++ c :: (more ++ r))) = some (d :: rest).length := by
    have decimal : intDigits (d :: (rest ++ c :: (more ++ r))) = digits 10 0 true (d :: (rest ++ c :: (more ++ r))) := by
      cases rest with
      | nil => exact intDigits_decimal (Or.inr starts)
      | cons x rest => exact intDigits_decimal (Or.inl (others x List.mem_cons_self))
    rw [decimal, ← List.cons_append, digits_digits digit starts fun _ => List.cons_ne_nil d rest, Nat.zero_add]
  have suffixed : suffixed (d :: (rest ++ c :: (more ++ r))) (d :: rest).length = (d :: rest ++ suffix).length := by
    have dropped : (d :: (rest ++ c :: (more ++ r))).drop (d :: rest).length = suffix ++ r := by
      rw [← spelled, List.append_assoc, List.drop_left]
    unfold Literal.suffixed
    rw [dropped, wordWidth_word (isWord_of_isName name) ends, List.length_append]
  have number : number (d :: (rest ++ c :: (more ++ r))) (d :: rest).length = some (d :: rest ++ suffix).length := by
    have dropped : (d :: (rest ++ c :: (more ++ r))).drop (d :: rest ++ suffix).length = r := by
      rw [← spelled, List.drop_left]
    unfold Literal.number
    simp only [suffixed, dropped]
    cases r with
    | nil => rfl
    | cons x r => simp [(ends x rfl).1]
  rw [spelled]
  unfold Literal.width
  rw [string, char, float, int]
  simpa using number

end ProcessBuild.Source.Lexer
