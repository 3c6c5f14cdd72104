/-
Source text that is spelled from tokens. Between two tokens stands one space, or nothing after a character that is
joined to the next, so no token runs into another one; reading the text gives the tokens back.
- `Printable`: token lists whose words are words, whose literals end where they are written, and whose joined
  characters are followed by what they can be joined to.
- `trees_text`: the text of printable tokens is read as these tokens.
-/
import ProcessBuild.Proofs.Source.LiteralWidth

namespace ProcessBuild.Source

open Text Lexer

/-- a literal that is read as far as it is written, whatever ends it -/
structure IsLiteral (text : String) : Prop where
  front : ∃ c rest, text.toList = c :: rest ∧ Starts c
  width : ∀ r, Ends r → Literal.width (text.toList ++ r) = some text.toList.length

theorem isLiteral_string (s : String) : IsLiteral (Text.literal s) := by
  have spelled : (Text.literal s).toList = '"' :: (literalBody s.toList ++ ['"']) := String.toList_ofList
  exact ⟨⟨'"', _, spelled, by decide, by decide, rfl, rfl⟩, fun r ends => width_string s ends⟩

/-- a text without quotes and line ends can be written raw -/
theorem isLiteral_raw {text : String} (h : ∀ c ∈ text.toList, c ≠ '"' ∧ c ≠ '\r') : IsLiteral ("r\"" ++ text ++ "\"") := by
  have spelled : ("r\"" ++ text ++ "\"").toList = 'r' :: '"' :: (text.toList ++ ['"']) := by
    rw [String.toList_append, String.toList_append]
    rfl
  refine ⟨⟨'r', _, spelled, by decide, by decide, rfl, rfl⟩, fun r ends => ?_⟩
  rw [spelled]
  exact width_raw h ends

theorem starts_digit {c : Char} (h : isDigit c = true) : Starts c :=
  starts_word (isWordRest_of_isNameChar (isAlnum_nameChar (by unfold isAlnum; rw [h, Bool.or_true])))

theorem isLiteral_number {n : Nat} {suffix : String} {c : Char} {more : List Char} (name : IsName suffix.toList)
    (front : suffix.toList = c :: more) (starts : StartsSuffix c) : IsLiteral (toString n ++ suffix) := by
  have digits : ∀ d ∈ (toString n).toList, isDigit d = true := fun d hd => isDigit_of_mem_toString hd
  have filled : (toString n).toList ≠ [] := by
    intro empty
    have core : Nat.toDigits 10 n = [] := by
      rw [← Nat.toList_repr]
      exact empty
    exact Nat.toDigits_ne_nil core
  obtain ⟨d, rest, e⟩ := List.exists_cons_of_ne_nil filled
  refine ⟨⟨d, rest ++ suffix.toList, ?_, starts_digit (digits d (by rw [e]; exact List.mem_cons_self))⟩, fun r ends => ?_⟩
  · rw [String.toList_append, e, List.cons_append]
  · rw [String.toList_append]
    exact width_number digits filled name front starts ends

/-! ## Printable tokens -/

/-- what a joined character can be joined to: another punctuation character, or the name of a lifetime -/
def Joins (c : Char) : List Token → Prop
  | .punct d _ :: _ => isMark c = true ∧ (isMark d = true ∨ d = '\'')
  | .word name :: _ => c = '\'' ∧ IsName name.toList
  | _ => False

mutual

/-- a token that is read back when it is spelled, with what follows it -/
def Token.Prints (rest : List Token) : Token → Prop
  | .word name => IsIdentifier name.toList
  | .punct c false => isMark c = true
  | .punct c true => Joins c rest
  | .literal text => IsLiteral text
  | .group _ inner => Printable inner

/-- tokens that are read back when they are spelled -/
def Printable : List Token → Prop
  | [] => True
  | t :: rest => t.Prints rest ∧ Printable rest

end

@[simp] theorem printable_nil : Printable [] ↔ True := by rw [Printable]

theorem printable_cons {t : Token} {rest : List Token} : Printable (t :: rest) ↔ t.Prints rest ∧ Printable rest := by
  rw [Printable]

theorem Joins.append {c : Char} {ts : List Token} (us : List Token) (h : Joins c ts) : Joins c (ts ++ us) := by
  cases ts with
  | nil => exact h.elim
  | cons t rest =>
    cases t with
    | word name => exact h
    | punct d joint => exact h
    | literal text => exact h.elim
    | group d inner => exact h.elim

theorem Token.Prints.append {t : Token} {ts : List Token} (us : List Token) (h : t.Prints ts) : t.Prints (ts ++ us) := by
  cases t with
  | word name => rwa [Token.Prints] at h ⊢
  | punct c joint =>
    cases joint with
    | false => rwa [Token.Prints] at h ⊢
    | true =>
      rw [Token.Prints] at h ⊢
      exact h.append us
  | literal text => rwa [Token.Prints] at h ⊢
  | group d inner => rwa [Token.Prints] at h ⊢

/-- printable texts stay printable next to each other -/
theorem Printable.append {ts us : List Token} (first : Printable ts) (second : Printable us) : Printable (ts ++ us) := by
  induction ts with
  | nil => exact second
  | cons t rest ih =>
    rw [List.cons_append, printable_cons]
    rw [printable_cons] at first
    exact ⟨first.1.append us, ih first.2⟩

theorem printable_flatMap {α : Type} {f : α → List Token} {xs : List α} (h : ∀ x ∈ xs, Printable (f x)) :
    Printable (xs.flatMap f) := by
  induction xs with
  | nil => exact printable_nil.2 trivial
  | cons x rest ih =>
    rw [List.flatMap_cons]
    exact (h x List.mem_cons_self).append (ih fun y hy => h y (List.mem_cons_of_mem x hy))

/-! ## The text of tokens -/

/-- what stands after the text of tokens: nothing, a space, or the end of a group -/
def After (r : List Char) : Prop := ∀ c, r.head? = some c → c = ' ' ∨ c = ')' ∨ c = ']' ∨ c = '\x7d'

theorem After.ends {r : List Char} (h : After r) : Ends r := by
  intro c hc
  rcases h c hc with rfl | rfl | rfl | rfl
  all_goals decide

theorem After.noPunct {r : List Char} (h : After r) : startsPunct r = false := by
  cases r with
  | nil => rfl
  | cons c r =>
    rcases h c rfl with rfl | rfl | rfl | rfl
    all_goals rfl

theorem after_cons {c : Char} {r : List Char} (h : c = ' ' ∨ c = ')' ∨ c = ']' ∨ c = '\x7d') : After (c :: r) := by
  intro d hd
  obtain rfl := Option.some.inj hd
  exact h

/-- where a token does not follow at once, a space or what is after the tokens does -/
theorem after_tokenChars {ts : List Token} {r : List Char} (after : After r) : After (tokenChars false ts ++ r) := by
  cases ts with
  | nil => exact after
  | cons t rest =>
    rw [tokenChars]
    exact after_cons (Or.inl rfl)

theorem startsPunct_joined {ts : List Token} {r : List Char} {c d : Char} {joint : Bool} {rest : List Token}
    (e : ts = .punct d joint :: rest) (h : Joins c ts) : startsPunct (tokenChars true ts ++ r) = true := by
  subst e
  obtain ⟨-, mark | rfl⟩ := h
  · rw [tokenChars]
    exact startsPunct_mark _ mark
  · rw [tokenChars]
    rfl

/-- a token that can be printed does not start a comment -/
theorem Token.Prints.front {t : Token} {rest : List Token} (prints : t.Prints rest) :
    ∃ c s, t.chars = c :: s ∧ c ≠ '/' := by
  cases t with
  | word name =>
    rw [Token.Prints] at prints
    obtain ⟨c, s, e, isRest⟩ := prints.front
    exact ⟨c, s, e, (starts_word isRest).noComment⟩
  | punct c joint =>
    refine ⟨c, [], rfl, ?_⟩
    cases joint with
    | false =>
      rw [Token.Prints] at prints
      exact (mark_facts prints).1.noComment
    -- a joined character is an apostrophe or a mark, by the token that follows
    | true =>
      rw [Token.Prints] at prints
      cases rest with
      | nil => exact prints.elim
      | cons u rest =>
        cases u with
        | word name =>
          rw [prints.1]
          decide
        | punct x joint => exact (mark_facts prints.1).1.noComment
        | literal text => exact prints.elim
        | group d inner => exact prints.elim
  | literal text =>
    rw [Token.Prints] at prints
    obtain ⟨c, s, e, starts⟩ := prints.front
    exact ⟨c, s, e, starts.noComment⟩
  | group d inner =>
    rw [Token.chars]
    cases d
    all_goals exact ⟨_, _, rfl, by decide⟩

/-- no group starts with the text that stands for an error -/
theorem noError_of_printable {d : Delimiter} {ts : List Token} (h : Printable ts) (r : List Char) :
    errorLiteral.isPrefixOf (opener d :: (tokenChars true ts ++ closer d :: r)) = false := by
  have noSlash : ∀ {c : Char} {s : List Char}, c ≠ '/' → errorLiteral.isPrefixOf (opener d :: c :: s) = false := by
    intro c s other
    have mismatch : ('/' == c) = false := beq_eq_false_iff_ne.2 other.symm
    simp only [errorLiteral, List.isPrefixOf, mismatch, Bool.false_and, Bool.and_false]
  cases ts with
  | nil =>
    refine noSlash ?_
    cases d
    all_goals decide
  | cons t rest =>
    rw [printable_cons] at h
    obtain ⟨c, s, e, noComment⟩ := h.1.front
    rw [tokenChars, if_pos rfl, List.nil_append, e]
    exact noSlash noComment

/-- the characters of a group between its delimiters -/
def innerChars (d : Delimiter) (inner : List Token) : List Char :=
  match d with
  | .brace => ' ' :: (tokenChars true inner ++ if inner.isEmpty then [] else [' '])
  | _ => tokenChars true inner

theorem chars_group (d : Delimiter) (inner : List Token) (r : List Char) :
    (Token.group d inner).chars ++ r = opener d :: (innerChars d inner ++ closer d :: r) := by
  rw [Token.chars]
  cases d with
  | parenthesis => simp [Delimiter.opening, Delimiter.closing, innerChars, opener, closer]
  | bracket => simp [Delimiter.opening, Delimiter.closing, innerChars, opener, closer]
  | brace =>
    cases empty : inner.isEmpty with
    | true => simp [Delimiter.opening, Delimiter.closing, innerChars, opener, closer, empty]
    | false => simp [Delimiter.opening, Delimiter.closing, innerChars, opener, closer, empty]

theorem after_closer (d : Delimiter) (r : List Char) : After (closer d :: r) := by
  refine after_cons ?_
  cases d with
  | parenthesis => exact Or.inr (Or.inl rfl)
  | bracket => exact Or.inr (Or.inr (Or.inl rfl))
  | brace => exact Or.inr (Or.inr (Or.inr rfl))

/-- the inside of a group is read when its tokens are read from their text -/
theorem lexes_inner {d : Delimiter} {inner : List Token} (r : List Char)
    (read : ∀ s, After s → Lexes (tokenChars true inner ++ s) inner s) :
    Lexes (innerChars d inner ++ closer d :: r) inner (closer d :: r) := by
  have closes := after_closer d r
  cases d with
  | parenthesis => exact read _ closes
  | bracket => exact read _ closes
  | brace =>
    have padding : ∀ s : List Char, Lexes (' ' :: s) [] s := fun s =>
      lexes_gap (s := [' ']) s (List.forall_mem_singleton.2 (by decide))
    unfold innerChars
    cases inner with
    | nil => exact padding _
    | cons t rest =>
      rw [List.cons_append, List.append_assoc]
      refine (padding _).append ?_
      have tokens := (read (' ' :: closer .brace :: r) (after_cons (Or.inl rfl))).append (padding (closer .brace :: r))
      rw [List.append_nil] at tokens
      exact tokens

theorem noError_inner {d : Delimiter} {inner : List Token} (h : Printable inner) (r : List Char) :
    errorLiteral.isPrefixOf (opener d :: (innerChars d inner ++ closer d :: r)) = false := by
  cases d with
  | parenthesis => exact noError_of_printable h r
  | bracket => exact noError_of_printable h r
  | brace => rfl

/-- a joined character is read with what it is joined to after it -/
theorem lexes_joined {c : Char} {rest : List Token} {r : List Char} (joins : Joins c rest) (printable : Printable rest)
    (after : After r) :
    Lexes (c :: (tokenChars true rest ++ r)) [.punct c true] (tokenChars true rest ++ r) := by
  cases rest with
  | nil => exact joins.elim
  | cons t rest =>
    cases t with
    | word name =>
      obtain ⟨rfl, isName⟩ := joins
      rw [tokenChars, if_pos rfl, List.nil_append, List.append_assoc, Token.chars]
      exact lexes_lifetime isName (after_tokenChars after).ends
    | punct d joint =>
      have follows := startsPunct_joined (r := r) rfl joins
      have read := lexes_punct (tokenChars true (.punct d joint :: rest) ++ r) joins.1
      rwa [follows] at read
    | literal text => exact joins.elim
    | group d inner => exact joins.elim

mutual

theorem lexes_token (t : Token) (rest : List Token) {r : List Char} (prints : t.Prints rest) (printable : Printable rest)
    (after : After r) :
    Lexes (t.chars ++ (tokenChars t.isJoint rest ++ r)) [t] (tokenChars t.isJoint rest ++ r) :=
  match t with
  | .word name => by
    rw [Token.Prints] at prints
    rw [Token.chars]
    exact lexes_identifier prints (after_tokenChars after).ends
  | .punct c false => by
    rw [Token.Prints] at prints
    rw [Token.chars]
    have read := lexes_punct (tokenChars false rest ++ r) prints
    rwa [(after_tokenChars after).noPunct] at read
  | .punct c true => by
    rw [Token.Prints] at prints
    rw [Token.chars]
    exact lexes_joined prints printable after
  | .literal text => by
    rw [Token.Prints] at prints
    rw [Token.chars]
    obtain ⟨c, s, front, starts⟩ := prints.front
    exact lexes_literal front starts (prints.width _ (after_tokenChars after).ends)
  | .group d inner => by
    rw [Token.Prints] at prints
    rw [chars_group]
    exact lexes_group (lexes_inner _ fun s closes => lexes_tokenChars inner true prints closes) (noError_inner prints _)

/-- the text of printable tokens is read as these tokens -/
theorem lexes_tokenChars (ts : List Token) (tight : Bool) {r : List Char} (printable : Printable ts) (after : After r) :
    Lexes (tokenChars tight ts ++ r) ts r :=
  match ts with
  | [] => by
    rw [tokenChars]
    exact lexes_nil r
  | t :: rest => by
    rw [printable_cons] at printable
    have space : ∀ s, Lexes ((if tight then [] else [' ']) ++ s) [] s := fun s => by
      cases tight with
      | true => exact lexes_nil s
      | false => exact lexes_gap (s := [' ']) s (List.forall_mem_singleton.2 (by decide))
    rw [tokenChars, List.append_assoc, List.append_assoc]
    refine (space _).append ((lexes_token t rest printable.1 printable.2 after).append ?_)
    exact lexes_tokenChars rest t.isJoint printable.2 after

end

/-- **Printable tokens are read back from their text.** -/
theorem trees_text {ts : List Token} (h : Printable ts) :
    ∃ read, trees (text ts).toList = .ok read ∧ Tree.tokens read = ts := by
  have spelled : (text ts).toList = tokenChars true ts ++ [] := by
    unfold text
    rw [String.toList_ofList, List.append_nil]
  rw [spelled]
  exact trees_of_lexes (lexes_tokenChars ts true h fun _ nothing => nomatch nothing)

end ProcessBuild.Source
