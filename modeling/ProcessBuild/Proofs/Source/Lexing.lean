/-
Reading text that is spelled token by token. `Lexes s ts rest` says that reading on from the start of `s` comes to the
start of `rest` with the tokens `ts` read, wherever reading stands and whatever was read before. What comes after a
token is always the text that is really there, so rules are put together without looking at the text a second time.
- `Lexes.append`: one text after another.
- `lexes_gap`, `lexes_identifier`, `lexes_punct`, `lexes_lifetime`, `lexes_literal`, `lexes_doc`: one rule for each kind of
  token, and for blanks.
- `lexes_group`: a group, from the tokens inside it.
- `trees_of_lexes`: a text read to its end gives its tokens.
-/
import Mathlib.Data.List.TakeWhile
import ProcessBuild.Source.Lexer
import ProcessBuild.Proofs.Source.Naming

namespace ProcessBuild.Source.Lexer

open Text Literal

/-- reading comes from `s` to `rest` and takes the tokens -/
def Lexes (s : List Char) (ts : List Token) (rest : List Char) : Prop :=
  ∀ (fuel place : Nat) (frames : List Frame) (before : List Tree), s.length < fuel →
    ∃ fuel' place' trees, Tree.tokens trees = ts ∧ rest.length < fuel' ∧
      scan fuel place s frames before = scan fuel' place' rest frames (trees.reverse ++ before)

theorem tokens_append (xs ys : List Tree) : Tree.tokens (xs ++ ys) = Tree.tokens xs ++ Tree.tokens ys := by
  induction xs with
  | nil => rfl
  | cons t rest ih => rw [List.cons_append, Tree.tokens, Tree.tokens, ih, List.cons_append]

theorem lexes_nil (s : List Char) : Lexes s [] s := fun fuel place _ _ h => ⟨fuel, place, [], rfl, h, rfl⟩

theorem Lexes.append {s mid rest : List Char} {ts us : List Token} (first : Lexes s ts mid) (second : Lexes mid us rest) :
    Lexes s (ts ++ us) rest := by
  intro fuel place frames before h
  obtain ⟨fuel₁, place₁, trees₁, rfl, h₁, e₁⟩ := first fuel place frames before h
  obtain ⟨fuel₂, place₂, trees₂, rfl, h₂, e₂⟩ := second fuel₁ place₁ frames (trees₁.reverse ++ before) h₁
  refine ⟨fuel₂, place₂, trees₁ ++ trees₂, tokens_append _ _, h₂, ?_⟩
  rw [e₁, e₂, List.reverse_append, List.append_assoc]

/-- **A text read to its end gives its tokens.** -/
theorem trees_of_lexes {s : List Char} {ts : List Token} (h : Lexes s ts []) :
    ∃ ts', trees s = .ok ts' ∧ Tree.tokens ts' = ts := by
  obtain ⟨fuel, place, read, tokens, enough, e⟩ := h (s.length + 1) 0 [] [] (Nat.lt_succ_self _)
  refine ⟨read, ?_, tokens⟩
  unfold trees
  rw [e]
  cases fuel with
  | zero => exact absurd enough (Nat.lt_irrefl 0)
  | succ fuel => simp [scan, gapWidth]

/-! ## Blanks -/

theorem blockEnd_ge {depth n m : Nat} {s : List Char} (h : blockEnd depth n s = some m) : n ≤ m := by
  fun_induction blockEnd depth n s with
  | case1 depth n r ih => exact Nat.le_of_add_right_le (ih h)
  | case2 depth n r shallow =>
    obtain rfl := Option.some.inj h
    omega
  | case3 depth n r deep ih => exact Nat.le_of_add_right_le (ih h)
  | case4 depth n c r _ _ ih => exact Nat.le_of_add_right_le (ih h)
  | case5 depth n => cases h

theorem blockEnd_pos {r : List Char} {n : Nat} (h : blockEnd 0 0 ('/' :: '*' :: r) = some n) : 0 < n := by
  rw [blockEnd] at h
  have := blockEnd_ge h
  omega

theorem commentWidth_pos {s : List Char} {n : Nat} (h : commentWidth s = some n) : 0 < n := by
  unfold commentWidth at h
  split at h
  all_goals first
    | exact blockEnd_pos h
    | (cases h <;> simp [lineWidth])

/-- as much fuel as there are characters is enough to skip blanks -/
theorem gapWidth_stable {fuel : Nat} {s : List Char} (h : s.length < fuel) : gapWidth (fuel + 1) s = gapWidth fuel s := by
  induction fuel generalizing s with
  | zero => exact absurd h (Nat.not_lt_zero _)
  | succ fuel ih =>
    cases s with
    | nil => rfl
    | cons c r =>
      have shorter : r.length < fuel := Nat.lt_of_succ_lt_succ h
      rw [gapWidth, gapWidth]
      cases width : commentWidth (c :: r) with
      | some n =>
        have positive := commentWidth_pos width
        have dropped : ((c :: r).drop n).length < fuel := by
          rw [List.length_drop, List.length_cons]
          omega
        simp only [ih dropped]
      | none => simp only [ih shorter]

theorem commentWidth_of_ne {c : Char} {r : List Char} (h : c ≠ '/') : commentWidth (c :: r) = none := by
  unfold commentWidth
  split <;> simp_all

theorem docComment_of_ne {c : Char} {r : List Char} (h : c ≠ '/') : docComment? (c :: r) = none := by
  unfold docComment?
  split <;> simp_all

theorem isGap_ne_slash {c : Char} (h : isGap c = true) : c ≠ '/' := by
  rintro rfl
  revert h
  decide

theorem scan_gap {fuel place : Nat} {c : Char} {r : List Char} {frames : List Frame} {before : List Tree}
    (blank : isGap c = true) (enough : r.length + 1 < fuel) :
    scan fuel place (c :: r) frames before = scan fuel (place + 1) r frames before := by
  cases fuel with
  | zero => exact absurd enough (Nat.not_lt_zero _)
  | succ fuel =>
    have width : gapWidth (fuel + 1) (c :: r) = 1 + gapWidth (fuel + 1) r := by
      rw [gapWidth, commentWidth_of_ne (isGap_ne_slash blank)]
      simp only [blank, if_true]
      rw [gapWidth_stable (by omega)]
    have dropped : (c :: r).drop (gapWidth (fuel + 1) (c :: r)) = r.drop (gapWidth (fuel + 1) r) := by
      rw [width, Nat.add_comm, List.drop_succ_cons]
    have shifted : place + gapWidth (fuel + 1) (c :: r) = place + 1 + gapWidth (fuel + 1) r := by omega
    unfold scan
    simp only [dropped, shifted]

theorem lexes_gap {s : List Char} (r : List Char) (blank : ∀ c ∈ s, isGap c = true) : Lexes (s ++ r) [] r := by
  intro fuel place frames before h
  induction s generalizing place with
  | nil => exact ⟨fuel, place, [], rfl, h, rfl⟩
  | cons c s ih =>
    rw [List.cons_append] at h ⊢
    rw [scan_gap (blank c List.mem_cons_self) h]
    exact ih (fun x hx => blank x (List.mem_cons_of_mem c hx)) (place + 1) (Nat.lt_of_succ_lt h)

/-! ## Tokens -/

/-- a character that a token other than a group may start with -/
structure Starts (c : Char) : Prop where
  solid : isGap c = false
  noComment : c ≠ '/'
  noOpening : opens? c = none
  noClosing : closes? c = none

theorem gapWidth_eq_zero {fuel : Nat} {c : Char} {r : List Char} (solid : isGap c = false) (h : c ≠ '/') :
    gapWidth (fuel + 1) (c :: r) = 0 := by
  rw [gapWidth, commentWidth_of_ne h]
  simp only [solid, Bool.false_eq_true, if_false]

theorem scan_leaf {fuel place : Nat} {c : Char} {r : List Char} {frames : List Frame} {before : List Tree} {t : Tree}
    {n : Nat} (starts : Starts c) (read : leaf place (c :: r) = some (t, n)) :
    scan (fuel + 1) place (c :: r) frames before = scan fuel (place + n) ((c :: r).drop n) frames (t :: before) := by
  conv => lhs; unfold scan
  simp only [gapWidth_eq_zero starts.solid starts.noComment, List.drop_zero, Nat.add_zero,
    docComment_of_ne starts.noComment, Option.filter_none, starts.noOpening, starts.noClosing, ite_self, read]

theorem lexes_leaf {c : Char} {r : List Char} {t : Token} {n : Nat} (starts : Starts c) (positive : 0 < n)
    (read : ∀ place, ∃ tree, Tree.token tree = t ∧ leaf place (c :: r) = some (tree, n)) :
    Lexes (c :: r) [t] ((c :: r).drop n) := by
  intro fuel place frames before h
  cases fuel with
  | zero => exact absurd h (Nat.not_lt_zero _)
  | succ fuel =>
    obtain ⟨tree, token, e⟩ := read place
    refine ⟨fuel, place + n, [tree], by rw [Tree.tokens, token, Tree.tokens], ?_, scan_leaf starts e⟩
    rw [List.length_drop]
    rw [List.length_cons] at h ⊢
    omega

/-- what may follow a word or a literal: nothing that would go on with it -/
def Ends (r : List Char) : Prop := ∀ c, r.head? = some c → isWordRest c = false ∧ c ≠ '"' ∧ c ≠ '#' ∧ c ≠ '\''

theorem ends_nil : Ends [] := fun _ h => nomatch h

theorem ends_cons {c : Char} {r : List Char} (h : isWordRest c = false ∧ c ≠ '"' ∧ c ≠ '#' ∧ c ≠ '\'') :
    Ends (c :: r) := by
  intro d hd
  obtain rfl := Option.some.inj hd
  exact h

/-! ### Words -/

theorem isNameChar_range {c : Char} (h : isNameChar c = true) :
    (48 ≤ c.toNat ∧ c.toNat ≤ 57) ∨ (65 ≤ c.toNat ∧ c.toNat ≤ 90) ∨ c.toNat = 95 ∨ (97 ≤ c.toNat ∧ c.toNat ≤ 122) := by
  simp only [isNameChar, isAlnum, isLetter, isDigit, Bool.or_eq_true, Bool.and_eq_true, decide_eq_true_eq,
    beq_iff_eq] at h
  rcases h with h | rfl
  · omega
  · decide

theorem isWordRest_of_isNameChar {c : Char} (h : isNameChar c = true) : isWordRest c = true := by
  have range := isNameChar_range h
  have ascii : c.toNat < 128 := by omega
  unfold isWordRest
  simp only [ascii, if_true]
  exact h

theorem isWordStart_of_isNameChar {c : Char} (h : isNameChar c = true) (digit : isDigit c = false) :
    isWordStart c = true := by
  have range := isNameChar_range h
  have ascii : c.toNat < 128 := by omega
  unfold isWordStart
  simp only [ascii, if_true]
  unfold isNameChar isAlnum at h
  rw [digit, Bool.or_false] at h
  exact h

/-- a word of source text, which may have letters of any script -/
structure IsWord (s : List Char) : Prop where
  chars : ∀ c ∈ s, isWordRest c = true
  front : ∃ c rest, s = c :: rest ∧ isWordStart c = true

theorem isWord_of_isName {name : List Char} (h : IsName name) : IsWord name := by
  obtain ⟨c, rest, rfl, digit⟩ := h.front
  exact ⟨fun x hx => isWordRest_of_isNameChar (h.chars x hx), c, rest, rfl,
    isWordStart_of_isNameChar (h.chars c List.mem_cons_self) digit⟩

theorem takeWhile_isWordRest {word r : List Char} (h : ∀ c ∈ word, isWordRest c = true) (ends : Ends r) :
    (word ++ r).takeWhile isWordRest = word := by
  rw [List.takeWhile_append_of_pos h]
  cases r with
  | nil => simp
  | cons c r => simp [(ends c rfl).1]

theorem wordWidth_word {word r : List Char} (h : IsWord word) (ends : Ends r) :
    wordWidth (word ++ r) = word.length := by
  obtain ⟨c, rest, rfl, start⟩ := h.front
  have tail := takeWhile_isWordRest (fun x hx => h.chars x (List.mem_cons_of_mem c hx)) ends
  rw [List.cons_append, wordWidth]
  simp only [start, if_true, tail, List.length_cons, Nat.add_comm]

/-- a text that does not go on as a quoted literal -/
def Plain (s : List Char) : Prop := ∀ c, s.head? = some c → c ≠ '"' ∧ c ≠ '#' ∧ c ≠ '\''

theorem isWordRest_plain {c : Char} (h : isWordRest c = true) : c ≠ '"' ∧ c ≠ '#' ∧ c ≠ '\'' := by
  refine ⟨?_, ?_, ?_⟩
  all_goals
    rintro rfl
    revert h
    decide

theorem plain_word {word r : List Char} (h : ∀ c ∈ word, isWordRest c = true) (ends : Ends r) : Plain (word ++ r) := by
  intro c hc
  cases word with
  | nil => exact (ends c hc).2
  | cons d rest =>
    obtain rfl := Option.some.inj hc
    exact isWordRest_plain (h d List.mem_cons_self)

theorem rawString_plain {k : StringKind} {n : Nat} {s : List Char} (h : Plain s) : rawString k n s = none := by
  cases s with
  | nil => rfl
  | cons c r =>
    obtain ⟨quote, hash, -⟩ := h c rfl
    have guards : hashes (c :: r) = 0 := by simp [hashes, hash]
    unfold rawString
    simp only [guards, List.drop_zero]
    split
    · rename_i e
      exact absurd (List.cons.inj e).1 quote
    · rfl

theorem word_tail {c d : Char} {rest r tail : List Char} (h : IsWord (c :: rest)) (ends : Ends r)
    (e : rest ++ r = d :: tail) (goesOn : isWordRest d = true) : Plain tail := by
  cases rest with
  | nil =>
    have stop := (ends d (by rw [show r = d :: tail from e]; rfl)).1
    rw [goesOn] at stop
    cases stop
  | cons x rest =>
    obtain ⟨rfl, rfl⟩ := List.cons.inj e
    exact plain_word (fun y hy => h.chars y (List.mem_cons_of_mem c (List.mem_cons_of_mem _ hy))) ends

theorem string_word {word r : List Char} (h : IsWord word) (ends : Ends r) : Literal.string (word ++ r) = none := by
  obtain ⟨c, rest, rfl, -⟩ := h.front
  have tailPlain : Plain (rest ++ r) := plain_word (fun x hx => h.chars x (List.mem_cons_of_mem c hx)) ends
  have notQuote : ∀ {tail : List Char}, rest ++ r ≠ '"' :: tail := by
    intro tail e
    exact (tailPlain '"' (by rw [e]; rfl)).1 rfl
  rw [List.cons_append]
  unfold Literal.string
  split
  · rename_i e
    exact absurd (List.cons.inj e).1 (isWordRest_plain (h.chars c List.mem_cons_self)).1
  · rename_i e
    rw [← (List.cons.inj e).2]
    exact rawString_plain tailPlain
  · rename_i e
    exact absurd (List.cons.inj e).2 notQuote
  · rename_i e
    exact rawString_plain (word_tail h ends (List.cons.inj e).2 (by decide))
  · rename_i e
    exact absurd (List.cons.inj e).2 notQuote
  · rename_i e
    exact rawString_plain (word_tail h ends (List.cons.inj e).2 (by decide))
  · rfl

theorem char_word {word r : List Char} (h : IsWord word) (ends : Ends r) : Literal.char (word ++ r) = none := by
  obtain ⟨c, rest, rfl, -⟩ := h.front
  have tailPlain : Plain (rest ++ r) := plain_word (fun x hx => h.chars x (List.mem_cons_of_mem c hx)) ends
  rw [List.cons_append]
  unfold Literal.char
  split
  · rename_i e
    exact absurd (List.cons.inj e).1 (isWordRest_plain (h.chars c List.mem_cons_self)).2.2
  · rename_i e
    exact absurd rfl (tailPlain '\'' (by rw [(List.cons.inj e).2]; rfl)).2.2
  · rfl

theorem hexValue_of_not_digit {c : Char} (digit : isDigit c = false) :
    (isHexDigit c && decide (hexValue c < 10)) = false := by
  cases hex : isHexDigit c with
  | false => rfl
  | true =>
    unfold isHexDigit at hex
    rw [digit, Bool.false_or, Bool.or_eq_true, Bool.and_eq_true, Bool.and_eq_true] at hex
    simp only [decide_eq_true_eq] at hex
    have large : 10 ≤ hexValue c := by
      unfold hexValue
      rw [digit, if_neg Bool.false_ne_true]
      split
      · rename_i lower
        have : 97 ≤ c.toNat := lower
        omega
      · rcases hex with hex | hex
        · exact absurd hex.1 ‹_›
        · have : 65 ≤ c.toNat := hex.1
          omega
    rw [Bool.true_and, decide_eq_false_iff_not]
    omega

theorem number_of_not_digit {c : Char} {r : List Char} (digit : isDigit c = false) :
    floatDigits (c :: r) = none ∧ intDigits (c :: r) = none := by
  refine ⟨by simp only [floatDigits, digit, Bool.false_eq_true, if_false], ?_⟩
  have zero : c ≠ '0' := by
    rintro rfl
    revert digit
    decide
  unfold intDigits
  split
  · rename_i e
    exact absurd (List.cons.inj e).1 zero
  · rename_i e
    exact absurd (List.cons.inj e).1 zero
  · rename_i e
    exact absurd (List.cons.inj e).1 zero
  · rw [digits, digit, if_neg Bool.false_ne_true, hexValue_of_not_digit digit, if_neg Bool.false_ne_true]
    split
    · rfl
    · rfl

theorem isDigit_of_isWordStart {c : Char} (h : isWordStart c = true) : isDigit c = false := by
  rw [Bool.eq_false_iff]
  intro digit
  simp only [isDigit, Bool.and_eq_true, decide_eq_true_eq] at digit
  have ascii : c.toNat < 128 := by omega
  have underscore : c ≠ '_' := by
    rintro rfl
    exact absurd digit (by decide)
  simp only [isWordStart, ascii, if_true, isLetter, Bool.or_eq_true, Bool.and_eq_true, decide_eq_true_eq, beq_iff_eq,
    underscore, or_false] at h
  omega

/-- **A word is no literal.** -/
theorem width_word {word r : List Char} (h : IsWord word) (ends : Ends r) : Literal.width (word ++ r) = none := by
  have string := string_word h ends
  have char := char_word h ends
  obtain ⟨c, rest, rfl, start⟩ := h.front
  rw [List.cons_append] at string char ⊢
  obtain ⟨float, int⟩ := number_of_not_digit (r := rest ++ r) (isDigit_of_isWordStart start)
  unfold Literal.width
  rw [string, char, float, int]
  rfl

/-- every opening of a quoted literal has a mark after its letters -/
theorem quotedOpenings_mark : ∀ o ∈ quotedOpenings, ∃ mark more, o.dropWhile isWordRest = mark :: more ∧
    isWordRest mark = false ∧ (mark = '"' ∨ mark = '#' ∨ mark = '\'') := by
  simp only [quotedOpenings, List.forall_mem_cons]
  refine ⟨⟨'"', [], by decide⟩, ⟨'#', ['"'], by decide⟩, ⟨'#', ['#'], by decide⟩, ⟨'"', [], by decide⟩,
    ⟨'\'', [], by decide⟩, ⟨'"', [], by decide⟩, ⟨'#', [], by decide⟩, ⟨'"', [], by decide⟩, ⟨'"', [], by decide⟩,
    ⟨'#', [], by decide⟩, ?_⟩
  intro o h
  cases h

theorem not_quoted {word r : List Char} (h : IsWord word) (ends : Ends r) :
    quotedOpenings.any (·.isPrefixOf (word ++ r)) = false := by
  rw [List.any_eq_false]
  intro o ho opens
  obtain ⟨t, e⟩ := List.isPrefixOf_iff_prefix.1 opens
  obtain ⟨mark, more, split, stop, isMark⟩ := quotedOpenings_mark o ho
  have spelled : o.takeWhile isWordRest ++ mark :: (more ++ t) = word ++ r := by
    rw [← e, ← List.cons_append, ← split, ← List.append_assoc, List.takeWhile_append_dropWhile]
  -- the letters in front of the mark are the word, so the mark comes right after it
  have front := congrArg (List.takeWhile isWordRest) spelled
  rw [takeWhile_isWordRest h.chars ends,
    List.takeWhile_append_of_pos fun c hc => List.mem_takeWhile_imp hc] at front
  simp only [List.takeWhile_cons, stop, Bool.false_eq_true, if_false, List.append_nil] at front
  rw [front] at spelled
  obtain ⟨-, quote, hash, apostrophe⟩ := ends mark (by rw [← List.append_cancel_left spelled]; rfl)
  rcases isMark with rfl | rfl | rfl
  · exact quote rfl
  · exact hash rfl
  · exact apostrophe rfl

theorem startsRaw_word {word r : List Char} (h : IsWord word) (ends : Ends r) : startsRaw (word ++ r) = false := by
  obtain ⟨c, rest, rfl, -⟩ := h.front
  have tailPlain : Plain (rest ++ r) := plain_word (fun x hx => h.chars x (List.mem_cons_of_mem c hx)) ends
  rw [Bool.eq_false_iff]
  intro raw
  obtain ⟨t, e⟩ := List.isPrefixOf_iff_prefix.1 raw
  have hash : '#' :: t = rest ++ r := (List.cons.inj e).2
  exact (tailPlain '#' (by rw [← hash]; rfl)).2.1 rfl

theorem identifierWidth_word {word r : List Char} (h : IsWord word) (ends : Ends r) :
    identifierWidth (word ++ r) = word.length := by
  unfold identifierWidth
  rw [startsRaw_word h ends, if_neg Bool.false_ne_true, wordWidth_word h ends]

/-- the code points of the characters that separate tokens, above U+007F -/
def gapRanges : List (Nat × Nat) := [(0x85, 0x85), (0xa0, 0xa0), (0x1680, 0x1680), (0x2000, 0x200a), (0x200e, 0x200f),
  (0x2028, 0x2029), (0x202f, 0x202f), (0x205f, 0x205f), (0x3000, 0x3000)]

theorem code_of_isGap {c : Char} (h : isGap c = true) : c.toNat < 33 ∨ inRanges gapRanges c.toNat = true := by
  simp only [isGap, isBlank, Bool.or_eq_true, Bool.and_eq_true, decide_eq_true_eq, beq_iff_eq] at h
  simp only [inRanges, gapRanges, List.any_cons, List.any_nil, Bool.or_false, Bool.or_eq_true, Bool.and_eq_true,
    decide_eq_true_eq]
  rcases h with (h | rfl) | rfl
  · omega
  · decide
  · decide

/-- no range of the characters of words meets one of the characters that separate tokens -/
theorem apart_gapRanges : (gapRanges.all fun g => decide (128 ≤ g.1) &&
    (wordStartRanges ++ wordMarkRanges).all fun r => Nat.blt r.2 g.1 || Nat.blt g.2 r.1) = true := by
  decide +kernel

/-- no character of a word separates tokens -/
theorem isGap_of_isWordRest {c : Char} (h : isWordRest c = true) : isGap c = false := by
  rw [Bool.eq_false_iff]
  intro gap
  rcases code_of_isGap gap with low | inTable
  · have ascii : c.toNat < 128 := by omega
    have underscore : c ≠ '_' := by
      rintro rfl
      exact absurd low (by decide)
    simp only [isWordRest, ascii, if_true, isAlnum, isLetter, isDigit, Bool.or_eq_true, Bool.and_eq_true,
      decide_eq_true_eq, beq_iff_eq, underscore, or_false] at h
    omega
  · obtain ⟨g, isRange, bounds⟩ := List.any_eq_true.1 inTable
    obtain ⟨high, apart⟩ := Bool.and_eq_true_iff.1 (List.all_eq_true.1 apart_gapRanges g isRange)
    simp only [Bool.and_eq_true, decide_eq_true_eq] at bounds high
    have notAscii : ¬c.toNat < 128 := by omega
    have word : inRanges (wordStartRanges ++ wordMarkRanges) c.toNat = true := by
      unfold isWordRest at h
      simp only [notAscii, if_false] at h
      rw [inRanges, List.any_append]
      exact h
    obtain ⟨r, isWord, around⟩ := List.any_eq_true.1 word
    have outside := List.all_eq_true.1 apart r isWord
    simp only [Bool.and_eq_true, decide_eq_true_eq, Bool.or_eq_true, Nat.blt_eq] at around outside
    omega

theorem starts_word {c : Char} (h : isWordRest c = true) : Starts c := by
  refine ⟨isGap_of_isWordRest h, ?_, ?_, ?_⟩
  · rintro rfl
    revert h
    decide
  · unfold opens?
    split
    all_goals first
      | rfl
      | (revert h; decide)
  · unfold closes?
    split
    all_goals first
      | rfl
      | (revert h; decide)

theorem isPunct_word {c : Char} (h : isWordRest c = true) : isPunct c = false := by
  have none_of : ∀ p ∈ ['~', '!', '@', '#', '$', '%', '^', '&', '*', '-', '=', '+', '|', ';', ':', ',', '<', '.', '>', '/',
      '?', '\''], isWordRest p = false := forall_chars (by decide)
  rw [Bool.eq_false_iff]
  intro punct
  have word := none_of c (List.contains_iff_mem.1 punct)
  rw [h] at word
  cases word

/-- an identifier of source text: a word, or a raw word -/
def IsIdentifier (s : List Char) : Prop :=
  IsWord s ∨ ∃ word, s = 'r' :: '#' :: word ∧ IsWord word ∧ String.ofList word ∉ neverRaw

theorem isIdentifier_of_isName {name : List Char} (h : IsName name) : IsIdentifier name := Or.inl (isWord_of_isName h)

theorem IsIdentifier.front {s : List Char} (h : IsIdentifier s) : ∃ c rest, s = c :: rest ∧ isWordRest c = true := by
  rcases h with h | ⟨word, rfl, -, -⟩
  · obtain ⟨c, rest, rfl, -⟩ := h.front
    exact ⟨c, rest, rfl, h.chars c List.mem_cons_self⟩
  · exact ⟨'r', _, rfl, by decide⟩

/-- a raw word is no raw string, since a word comes after its number sign -/
theorem width_raw_word {word r : List Char} (h : IsWord word) : Literal.width ('r' :: '#' :: (word ++ r)) = none := by
  obtain ⟨c, rest, rfl, -⟩ := h.front
  obtain ⟨quote, hash, -⟩ := isWordRest_plain (h.chars c List.mem_cons_self)
  have string : Literal.string ('r' :: '#' :: (c :: rest ++ r)) = none := by
    have guards : hashes ('#' :: c :: (rest ++ r)) = 1 := by simp [hashes, hash]
    show rawString .text 1 ('#' :: c :: (rest ++ r)) = none
    unfold rawString
    simp only [guards, List.drop_succ_cons, List.drop_zero]
    split
    · rename_i e
      exact absurd (List.cons.inj e).1 quote
    · rfl
  obtain ⟨float, int⟩ := number_of_not_digit (c := 'r') (r := '#' :: (c :: rest ++ r)) (by decide)
  unfold Literal.width
  rw [string, float, int]
  rfl

theorem not_quoted_raw {word r : List Char} (h : IsWord word) :
    quotedOpenings.any (·.isPrefixOf ('r' :: '#' :: (word ++ r))) = false := by
  obtain ⟨c, rest, rfl, -⟩ := h.front
  obtain ⟨quote, hash, -⟩ := isWordRest_plain (h.chars c List.mem_cons_self)
  have noQuote : ('"' == c) = false := beq_eq_false_iff_ne.2 quote.symm
  have noHash : ('#' == c) = false := beq_eq_false_iff_ne.2 hash.symm
  simp [quotedOpenings, List.isPrefixOf, noQuote, noHash]

theorem identifierWidth_raw {word r : List Char} (h : IsWord word) (rawable : String.ofList word ∉ neverRaw)
    (ends : Ends r) : identifierWidth ('r' :: '#' :: (word ++ r)) = 2 + word.length := by
  have width := wordWidth_word h ends
  have positive : word.length ≠ 0 := by
    obtain ⟨c, rest, rfl, -⟩ := h.front
    exact Nat.succ_ne_zero _
  have raw : startsRaw ('r' :: '#' :: (word ++ r)) = true := rfl
  have allowed : neverRaw.contains (String.ofList word) = false := by
    rwa [Bool.eq_false_iff, ne_eq, List.contains_iff_mem]
  unfold identifierWidth
  simp only [raw, if_true, List.drop_succ_cons, List.drop_zero, width, List.take_left, positive, allowed,
    Bool.false_eq_true, or_self, if_false]

/-- what reading looks at before it takes an identifier -/
theorem identifier_read {s r : List Char} (h : IsIdentifier s) (ends : Ends r) :
    Literal.width (s ++ r) = none ∧ identifierWidth (s ++ r) = s.length ∧
      quotedOpenings.any (·.isPrefixOf (s ++ r)) = false := by
  rcases h with h | ⟨word, rfl, h, rawable⟩
  · exact ⟨width_word h ends, identifierWidth_word h ends, not_quoted h ends⟩
  · refine ⟨width_raw_word h, (identifierWidth_raw h rawable ends).trans ?_, not_quoted_raw h⟩
    rw [List.length_cons, List.length_cons, Nat.add_comm]

theorem leaf_identifier {s r : List Char} (place : Nat) (h : IsIdentifier s) (ends : Ends r) :
    leaf place (s ++ r) = some (.word place (String.ofList s), s.length) := by
  obtain ⟨width, identifier, quoted⟩ := identifier_read h ends
  obtain ⟨c, rest, rfl, isRest⟩ := h.front
  have plain := isWordRest_plain isRest
  have noPunct := isPunct_word isRest
  rw [List.cons_append] at width identifier quoted ⊢
  have noLifetime : startsLifetime (c :: (rest ++ r)) = false := by
    unfold startsLifetime
    split
    · rename_i e
      exact absurd (List.cons.inj e).1 plain.2.2
    · rfl
  have noSymbol : startsPunct (c :: (rest ++ r)) = false := by
    unfold startsPunct
    split
    · rfl
    · rfl
    · rename_i e
      rw [← (List.cons.inj e).1, noPunct]
    · rfl
  unfold leaf
  have taken : (c :: (rest ++ r)).take (c :: rest).length = c :: rest := by
    rw [← List.cons_append, List.take_left]
  simp only [width, noLifetime, noSymbol, identifier, quoted, Bool.false_and, Bool.false_eq_true, if_false, taken]
  simp

/-- **An identifier is one token.** -/
theorem lexes_identifier {name : String} {r : List Char} (h : IsIdentifier name.toList) (ends : Ends r) :
    Lexes (name.toList ++ r) [.word name] r := by
  obtain ⟨c, rest, e, isRest⟩ := h.front
  have positive : 0 < name.toList.length := by rw [e]; exact Nat.succ_pos _
  have read := fun place => leaf_identifier place h ends
  have dropped : (name.toList ++ r).drop name.toList.length = r := List.drop_left
  rw [String.ofList_toList] at read
  have lexed : Lexes (c :: (rest ++ r)) [.word name] ((c :: (rest ++ r)).drop name.toList.length) := by
    refine lexes_leaf (starts_word isRest) positive fun place => ⟨.word place name, rfl, ?_⟩
    rw [← List.cons_append, ← e]
    exact read place
  rwa [← List.cons_append, ← e, dropped] at lexed

/-! ### Punctuation -/

/-- a punctuation character that starts neither a comment nor a lifetime -/
def isMark (c : Char) : Bool := isPunct c && c != '/' && c != '\''

theorem mark_facts {c : Char} (h : isMark c = true) :
    Starts c ∧ isPunct c = true ∧ c ≠ '\'' ∧ isDigit c = false ∧ c ≠ '"' ∧ c ≠ 'r' ∧ c ≠ 'b' ∧ c ≠ 'c' := by
  unfold isMark at h
  rw [Bool.and_eq_true, Bool.and_eq_true, bne_iff_ne, bne_iff_ne] at h
  obtain ⟨⟨punct, slash⟩, apostrophe⟩ := h
  have facts : ∀ p ∈ ['~', '!', '@', '#', '$', '%', '^', '&', '*', '-', '=', '+', '|', ';', ':', ',', '<', '.', '>', '/',
      '?', '\''], isGap p = false ∧ opens? p = none ∧ closes? p = none ∧ isDigit p = false ∧ p ≠ '"' ∧ p ≠ 'r' ∧
        p ≠ 'b' ∧ p ≠ 'c' := forall_chars (by decide)
  obtain ⟨gap, opening, closing, others⟩ := facts c (List.contains_iff_mem.1 punct)
  exact ⟨⟨gap, slash, opening, closing⟩, punct, apostrophe, others⟩

theorem width_mark {c : Char} (r : List Char) (h : isMark c = true) : Literal.width (c :: r) = none := by
  obtain ⟨-, -, apostrophe, digit, quote, raw, byte, cstr⟩ := mark_facts h
  have string : Literal.string (c :: r) = none := by
    unfold Literal.string
    split <;> simp_all
  have char : Literal.char (c :: r) = none := by
    unfold Literal.char
    split <;> simp_all
  obtain ⟨float, int⟩ := number_of_not_digit (r := r) digit
  unfold Literal.width
  rw [string, char, float, int]
  rfl

theorem startsPunct_mark {c : Char} (r : List Char) (h : isMark c = true) : startsPunct (c :: r) = true := by
  obtain ⟨starts, punct, -⟩ := mark_facts h
  unfold startsPunct
  split
  · rename_i e
    exact absurd (List.cons.inj e).1 starts.noComment
  · rename_i e
    exact absurd (List.cons.inj e).1 starts.noComment
  · rename_i e
    rw [← (List.cons.inj e).1]
    exact punct
  · rename_i e
    cases e

/-- **A punctuation character** is joined to the next one when that follows at once. -/
theorem lexes_punct {c : Char} (r : List Char) (h : isMark c = true) : Lexes (c :: r) [.punct c (startsPunct r)] r := by
  obtain ⟨starts, -, apostrophe, -⟩ := mark_facts h
  have noLifetime : startsLifetime (c :: r) = false := by
    unfold startsLifetime
    split
    · rename_i e
      exact absurd (List.cons.inj e).1 apostrophe
    · rfl
  refine lexes_leaf starts Nat.one_pos fun place => ⟨.punct place c (startsPunct r), rfl, ?_⟩
  unfold leaf
  simp [width_mark r h, noLifetime, startsPunct_mark r h, apostrophe]

theorem startsPunct_name {name : List Char} (r : List Char) (h : IsName name) : startsPunct (name ++ r) = false := by
  obtain ⟨c, rest, rfl, -⟩ := h.front
  have noPunct := isPunct_word ((isWord_of_isName h).chars c List.mem_cons_self)
  rw [List.cons_append]
  unfold startsPunct
  split
  · rfl
  · rfl
  · rename_i e
    rw [← (List.cons.inj e).1]
    exact noPunct
  · rfl

theorem width_lifetime {name r : List Char} (h : IsName name) (ends : Ends r) :
    Literal.width ('\'' :: (name ++ r)) = none := by
  obtain ⟨c, rest, rfl, -⟩ := h.front
  have tailPlain : Plain (rest ++ r) :=
    plain_word (fun x hx => (isWord_of_isName h).chars x (List.mem_cons_of_mem c hx)) ends
  have noBackslash : c ≠ '\\' := by
    rintro rfl
    have := h.chars _ List.mem_cons_self
    revert this
    decide
  -- a quote would have to follow the first character of the name, and what follows goes on a word or ends it
  have single : quotedChar .text 1 (c :: rest ++ r) = none := by
    rw [List.cons_append]
    unfold quotedChar
    split
    · rename_i e
      cases e
    · rename_i e
      exact absurd (List.cons.inj e).1 noBackslash
    · rename_i x tail _ e
      obtain ⟨rfl, rfl⟩ := List.cons.inj e
      have noQuote : ((rest ++ r).head? == some '\'') = false :=
        beq_eq_false_iff_ne.2 fun q => (tailPlain '\'' q).2.2 rfl
      rw [noQuote, Bool.and_false, if_neg Bool.false_ne_true]
  obtain ⟨float, int⟩ := number_of_not_digit (c := '\'') (r := c :: rest ++ r) (by decide)
  unfold Literal.width
  rw [show Literal.string ('\'' :: (c :: rest ++ r)) = none from rfl,
    show Literal.char ('\'' :: (c :: rest ++ r)) = quotedChar .text 1 (c :: rest ++ r) from rfl, single, float, int]
  rfl

/-- the apostrophe of a lifetime is joined to its name -/
theorem lexes_lifetime {name r : List Char} (h : IsName name) (ends : Ends r) :
    Lexes ('\'' :: (name ++ r)) [.punct '\'' true] (name ++ r) := by
  have positive : name.length ≠ 0 := by
    obtain ⟨c, rest, rfl, -⟩ := h.front
    exact Nat.succ_ne_zero _
  have follows : startsLifetime ('\'' :: (name ++ r)) = true := by
    unfold startsLifetime
    simp only [identifierWidth_word (isWord_of_isName h) ends, List.drop_left, bne_iff_ne, ne_eq, positive, not_false_eq_true,
      Bool.and_eq_true, true_and]
    split
    · rename_i e
      exact absurd rfl (ends '\'' rfl).2.2.2
    · rename_i e
      exact absurd rfl (ends '#' rfl).2.2.1
    · rfl
  have starts : Starts '\'' := ⟨by decide, by decide, rfl, rfl⟩
  refine lexes_leaf starts Nat.one_pos fun place => ⟨.punct place '\'' true, rfl, ?_⟩
  unfold leaf
  simp only [width_lifetime h ends, follows, if_true]

/-! ### Literals, groups and documentation -/

theorem lexes_literal {text : String} {r : List Char} {c : Char} {rest : List Char} (front : text.toList = c :: rest)
    (starts : Starts c) (width : Literal.width (text.toList ++ r) = some text.toList.length) :
    Lexes (text.toList ++ r) [.literal text] r := by
  have dropped : (text.toList ++ r).drop text.toList.length = r := List.drop_left
  have taken : (text.toList ++ r).take text.toList.length = text.toList := List.take_left
  have positive : 0 < text.toList.length := by rw [front]; exact Nat.succ_pos _
  have lexed : Lexes (c :: (rest ++ r)) [.literal text] ((c :: (rest ++ r)).drop text.toList.length) := by
    refine lexes_leaf starts positive fun place => ⟨.literal place text, rfl, ?_⟩
    unfold leaf
    rw [← List.cons_append, ← front, width]
    simp only [taken, String.ofList_toList]
  rwa [← List.cons_append, ← front, dropped] at lexed

/-- the characters that open and close a group -/
def opener : Delimiter → Char
  | .parenthesis => '('
  | .bracket => '['
  | .brace => '\x7b'

/-- the characters that open and close a group -/
def closer : Delimiter → Char
  | .parenthesis => ')'
  | .bracket => ']'
  | .brace => '\x7d'

theorem scan_open {fuel place : Nat} {d : Delimiter} {r : List Char} {frames : List Frame} {before : List Tree}
    (noError : errorLiteral.isPrefixOf (opener d :: r) = false) :
    scan (fuel + 1) place (opener d :: r) frames before = scan fuel (place + 1) r (⟨place, d, before⟩ :: frames) [] := by
  have facts : isGap (opener d) = false ∧ opener d ≠ '/' ∧ opens? (opener d) = some d := by cases d <;> decide
  obtain ⟨solid, noComment, opening⟩ := facts
  conv => lhs; unfold scan
  simp only [gapWidth_eq_zero solid noComment, List.drop_zero, Nat.add_zero, docComment_of_ne noComment,
    Option.filter_none, noError, opening, Bool.false_eq_true, if_false]

theorem scan_close {fuel place opened : Nat} {d : Delimiter} {r : List Char} {frames : List Frame}
    {before inner : List Tree} :
    scan (fuel + 1) place (closer d :: r) (⟨opened, d, before⟩ :: frames) inner =
      scan fuel (place + 1) r frames (.group opened place d inner.reverse :: before) := by
  have facts : isGap (closer d) = false ∧ closer d ≠ '/' ∧ opens? (closer d) = none ∧ closes? (closer d) = some d := by
    cases d <;> decide
  obtain ⟨solid, noComment, opening, closing⟩ := facts
  conv => lhs; unfold scan
  simp only [gapWidth_eq_zero solid noComment, List.drop_zero, Nat.add_zero, docComment_of_ne noComment,
    Option.filter_none, opening, closing, ite_self, if_true]

/-- **A group** is read from what is read inside it. -/
theorem lexes_group {d : Delimiter} {s r : List Char} {ts : List Token} (inner : Lexes s ts (closer d :: r))
    (noError : errorLiteral.isPrefixOf (opener d :: s) = false) : Lexes (opener d :: s) [.group d ts] r := by
  intro fuel place frames before h
  cases fuel with
  | zero => exact absurd h (Nat.not_lt_zero _)
  | succ fuel =>
    obtain ⟨fuel', place', trees, rfl, enough, e⟩ :=
      inner fuel (place + 1) (⟨place, d, before⟩ :: frames) [] (Nat.lt_of_succ_lt_succ h)
    cases fuel' with
    | zero => exact absurd enough (Nat.not_lt_zero _)
    | succ fuel' =>
      refine ⟨fuel', place' + 1, [.group place place' d trees], rfl, Nat.lt_of_succ_lt_succ enough, ?_⟩
      rw [scan_open noError, e, List.append_nil, scan_close, List.reverse_reverse]
      rfl

/-- the tokens of a documentation comment -/
def docTokens (inner : Bool) (text : List Char) : List Token :=
  Token.mark '#' :: (if inner then [Token.mark '!'] else []) ++
    [Token.brackets [.word "doc", .mark '=', .string (String.ofList text)]]

/-- a text without line ends -/
def OneLine (text : List Char) : Prop := ∀ c ∈ text, c ≠ '\n' ∧ c ≠ '\r'

instance (text : List Char) : Decidable (OneLine text) :=
  List.decidableBAll (fun c => c ≠ '\n' ∧ c ≠ '\r') text

theorem OneLine.append {s t : List Char} (first : OneLine s) (second : OneLine t) : OneLine (s ++ t) :=
  List.forall_mem_append.2 ⟨first, second⟩

theorem lineWidth_of_oneLine {text : List Char} (r : List Char) (h : OneLine text) :
    lineWidth (text ++ '\n' :: r) = text.length := by
  induction text with
  | nil => rfl
  | cons c text ih =>
    obtain ⟨newline, return_⟩ := h c List.mem_cons_self
    rw [List.cons_append, lineWidth]
    · rw [ih fun x hx => h x (List.mem_cons_of_mem c hx), List.length_cons]
    · exact newline
    · intro tail e
      exact absurd e return_

theorem wholeLines_of_oneLine {text : List Char} (h : OneLine text) : wholeLines text = true := by
  induction text with
  | nil => rfl
  | cons c text ih =>
    have other := (h c List.mem_cons_self).2
    rw [wholeLines]
    · exact ih fun x hx => h x (List.mem_cons_of_mem c hx)
    · intro tail e
      exact absurd e other
    · exact other

theorem scan_doc {fuel place : Nat} {s : List Char} {frames : List Frame} {before : List Tree} {d : Doc}
    (noComment : commentWidth ('/' :: s) = none) (doc : docComment? ('/' :: s) = some d)
    (whole : wholeLines d.text = true) :
    scan (fuel + 1) place ('/' :: s) frames before =
      scan fuel (place + d.width) (('/' :: s).drop d.width) frames (d.trees place ++ before) := by
  have gap : gapWidth (fuel + 1) ('/' :: s) = 0 := by
    rw [gapWidth, noComment]
    rfl
  conv => lhs; unfold scan
  simp only [gap, List.drop_zero, Nat.add_zero, doc, Option.filter_some, whole, if_true]

theorem docComment_line {inner : Bool} {text : List Char} (r : List Char) (h : OneLine text)
    (noFourth : inner = false → text.head? ≠ some '/') :
    let s := '/' :: (if inner then '!' else '/') :: (text ++ '\n' :: r)
    commentWidth ('/' :: s) = none ∧ docComment? ('/' :: s) = some ⟨inner, text, text.length + 3⟩ := by
  have width := lineWidth_of_oneLine r h
  have taken : (text ++ '\n' :: r).take (lineWidth (text ++ '\n' :: r)) = text := by
    rw [width, List.take_left]
  cases inner with
  | true =>
    refine ⟨rfl, ?_⟩
    simp only [if_true, docComment?, taken]
    simp [lineWidth, width]
  | false =>
    cases text with
    | nil => exact ⟨rfl, rfl⟩
    | cons c text =>
      have fourth : c ≠ '/' := fun e => noFourth rfl (congrArg some e)
      rw [List.cons_append] at taken width ⊢
      refine ⟨by simp [commentWidth, fourth], ?_⟩
      simp [docComment?, fourth, lineWidth, width]

/-- **A documentation comment** is the attribute that it stands for. -/
theorem lexes_doc {inner : Bool} {text : List Char} (r : List Char) (h : OneLine text)
    (noFourth : inner = false → text.head? ≠ some '/') :
    Lexes ('/' :: '/' :: (if inner then '!' else '/') :: (text ++ '\n' :: r)) (docTokens inner text) ('\n' :: r) := by
  obtain ⟨noComment, doc⟩ := docComment_line r h noFourth
  intro fuel place frames before enough
  cases fuel with
  | zero => exact absurd enough (Nat.not_lt_zero _)
  | succ fuel =>
    refine ⟨fuel, place + (text.length + 3), ((⟨inner, text, text.length + 3⟩ : Doc).trees place).reverse, ?_, ?_, ?_⟩
    · cases inner <;> rfl
    · simp only [List.length_cons, List.length_append] at enough ⊢
      omega
    · rw [scan_doc noComment doc (wholeLines_of_oneLine h), List.reverse_reverse]
      congr 1
      simp

end ProcessBuild.Source.Lexer
