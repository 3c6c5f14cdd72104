/-
Source text that is laid out by hand, in lines with documentation comments. A layout is a list of pieces, each spelled
in a way of its own; what follows a piece decides whether the piece is read as it is meant, so pieces fit or do not fit
what is after them.
- `Fits`: pieces whose spelling is read as their tokens.
- `trees_layout`: the spelling of pieces that fit is read as their tokens.
-/
import ProcessBuild.Proofs.Source.TokenText

namespace ProcessBuild.Source

open Text Lexer

/-- a piece of source text -/
inductive Piece where
  | gap (blanks : List Char)
  | word (name : String)
  /-- words with path separators between them -/
  | path (names : List String)
  | punct (c : Char) (joint : Bool)
  | lifetime (name : String)
  | literal (text : String)
  | group (delimiter : Delimiter) (inner : List Piece)
  /-- a documentation comment, of what it stands in or of what follows -/
  | doc (inner : Bool) (text : List Char)

/-- the characters of words with path separators between them -/
def pathChars : List String → List Char
  | [] => []
  | [w] => w.toList
  | w :: rest => w.toList ++ ':' :: ':' :: pathChars rest

mutual

def Piece.spell : Piece → List Char
  | .gap blanks => blanks
  | .word name => name.toList
  | .path names => pathChars names
  | .punct c _ => [c]
  | .lifetime name => '\'' :: name.toList
  | .literal text => text.toList
  | .group d inner => opener d :: (spellAll inner ++ [closer d])
  | .doc inner text => '/' :: '/' :: (if inner then '!' else '/') :: text

def spellAll : List Piece → List Char
  | [] => []
  | p :: rest => p.spell ++ spellAll rest

end

mutual

def Piece.tokens : Piece → List Token
  | .gap _ => []
  | .word name => [.word name]
  | .path names => Token.path names
  | .punct c joint => [.punct c joint]
  | .lifetime name => Token.lifetime name
  | .literal text => [.literal text]
  | .group d inner => [.group d (tokensAll inner)]
  | .doc inner text => docTokens inner text

def tokensAll : List Piece → List Token
  | [] => []
  | p :: rest => p.tokens ++ tokensAll rest

end

mutual

/-- a piece that is read as it is meant when some text follows it -/
def Piece.Fits (after : List Char) : Piece → Prop
  | .gap blanks => ∀ c ∈ blanks, isGap c = true
  | .word name => IsName name.toList ∧ Ends after
  | .path names => (∀ w ∈ names, IsName w.toList) ∧ Ends after
  | .punct c joint => isMark c = true ∧ startsPunct after = joint
  | .lifetime name => IsName name.toList ∧ Ends after
  | .literal text => IsLiteral text ∧ Ends after
  | .group d inner =>
    errorLiteral.isPrefixOf (opener d :: (spellAll inner ++ closer d :: after)) = false ∧ Fits (closer d :: after) inner
  | .doc inner text => OneLine text ∧ (inner = false → text.head? ≠ some '/') ∧ ∃ r, after = '\n' :: r

/-- pieces that are read as they are meant when some text follows them -/
def Fits (after : List Char) : List Piece → Prop
  | [] => True
  | p :: rest => p.Fits (spellAll rest ++ after) ∧ Fits after rest

end

def gap (blanks : String) : Piece := .gap blanks.toList

def space : Piece := .gap [' ']

theorem spellAll_append (ps qs : List Piece) : spellAll (ps ++ qs) = spellAll ps ++ spellAll qs := by
  induction ps with
  | nil => rfl
  | cons p rest ih => rw [List.cons_append, spellAll, spellAll, ih, List.append_assoc]

theorem spellAll_flatMap {α : Type} (f : α → List Piece) (xs : List α) :
    spellAll (xs.flatMap f) = xs.flatMap fun x => spellAll (f x) := by
  induction xs with
  | nil => rfl
  | cons x xs ih => rw [List.flatMap_cons, List.flatMap_cons, spellAll_append, ih]

theorem tokensAll_append (ps qs : List Piece) : tokensAll (ps ++ qs) = tokensAll ps ++ tokensAll qs := by
  induction ps with
  | nil => rfl
  | cons p rest ih => rw [List.cons_append, tokensAll, tokensAll, ih, List.append_assoc]

theorem tokensAll_flatMap {α : Type} (f : α → List Piece) (xs : List α) :
    tokensAll (xs.flatMap f) = xs.flatMap fun x => tokensAll (f x) := by
  induction xs with
  | nil => rfl
  | cons x xs ih => rw [List.flatMap_cons, List.flatMap_cons, tokensAll_append, ih]

theorem fits_append {after : List Char} {ps qs : List Piece} :
    Fits after (ps ++ qs) ↔ Fits (spellAll qs ++ after) ps ∧ Fits after qs := by
  induction ps with
  | nil => rw [List.nil_append, Fits, true_and]
  | cons p rest ih => rw [List.cons_append, Fits, Fits, ih, spellAll_append, List.append_assoc, and_assoc]

/-- pieces stay fit next to others when what follows does not matter to them -/
theorem fits_flatMap {α : Type} {f : α → List Piece} {xs : List α} (h : ∀ x ∈ xs, ∀ after, Fits after (f x))
    (after : List Char) : Fits after (xs.flatMap f) := by
  induction xs with
  | nil =>
    rw [List.flatMap_nil, Fits]
    trivial
  | cons x xs ih =>
    rw [List.flatMap_cons, fits_append]
    exact ⟨h x List.mem_cons_self _, ih fun y hy => h y (List.mem_cons_of_mem x hy)⟩

/-- entries with commas between them are the first entry and then a comma before each other one -/
theorem separated_cons (ts : List Token) (rest : List (List Token)) :
    Token.separated (ts :: rest) = ts ++ rest.flatMap fun us => .mark ',' :: us := by
  induction rest generalizing ts with
  | nil => rw [Token.separated, List.flatMap_nil, List.append_nil]
  | cons us rest ih =>
    rw [Token.separated, ih us, List.flatMap_cons, List.cons_append]
    exact fun e => nomatch e

/-- words with path separators between them are read as a path -/
theorem lexes_path {names : List String} {after : List Char} (h : ∀ w ∈ names, IsName w.toList) (ends : Ends after) :
    Lexes (pathChars names ++ after) (Token.path names) after := by
  induction names with
  | nil => exact lexes_nil after
  | cons w names ih =>
    have name := h w List.mem_cons_self
    cases names with
    | nil => exact lexes_identifier (isIdentifier_of_isName name) ends
    | cons v names =>
      have others := ih fun x hx => h x (List.mem_cons_of_mem w hx)
      have isNext := h v (List.mem_cons_of_mem w List.mem_cons_self)
      have noMark : startsPunct (pathChars (v :: names) ++ after) = false := by
        cases names with
        | nil => exact startsPunct_name after isNext
        | cons u names =>
          rw [pathChars, List.append_assoc]
          · exact startsPunct_name _ isNext
          · exact fun e => nomatch e
      have second := lexes_punct (pathChars (v :: names) ++ after) (c := ':') rfl
      have first := lexes_punct (':' :: (pathChars (v :: names) ++ after)) (c := ':') rfl
      rw [noMark] at second
      have word := lexes_identifier (r := ':' :: ':' :: (pathChars (v :: names) ++ after)) (isIdentifier_of_isName name)
        (ends_cons (by decide))
      rw [pathChars, List.append_assoc]
      · exact word.append (first.append (second.append others))
      · exact fun e => nomatch e

mutual

theorem lexes_piece (p : Piece) {after : List Char} (fits : p.Fits after) : Lexes (p.spell ++ after) p.tokens after :=
  match p with
  | .gap blanks => by
    rw [Piece.Fits] at fits
    exact lexes_gap after fits
  | .word name => by
    rw [Piece.Fits] at fits
    exact lexes_identifier (isIdentifier_of_isName fits.1) fits.2
  | .path names => by
    rw [Piece.Fits] at fits
    exact lexes_path fits.1 fits.2
  | .punct c joint => by
    rw [Piece.Fits] at fits
    have read := lexes_punct after fits.1
    rwa [fits.2] at read
  | .lifetime name => by
    rw [Piece.Fits] at fits
    exact (lexes_lifetime fits.1 fits.2).append (lexes_identifier (isIdentifier_of_isName fits.1) fits.2)
  | .literal text => by
    rw [Piece.Fits] at fits
    obtain ⟨isLiteral, ends⟩ := fits
    obtain ⟨c, s, front, starts⟩ := isLiteral.front
    exact lexes_literal front starts (isLiteral.width after ends)
  | .group d inner => by
    rw [Piece.Fits] at fits
    have spelled : (Piece.group d inner).spell ++ after = opener d :: (spellAll inner ++ closer d :: after) := by
      rw [Piece.spell, List.cons_append, List.append_assoc, List.singleton_append]
    rw [spelled]
    exact lexes_group (lexes_spellAll inner fits.2) fits.1
  | .doc inner text => by
    rw [Piece.Fits] at fits
    obtain ⟨oneLine, noFourth, r, rfl⟩ := fits
    exact lexes_doc r oneLine noFourth

/-- pieces that fit what follows them are read as their tokens -/
theorem lexes_spellAll (ps : List Piece) {after : List Char} (fits : Fits after ps) :
    Lexes (spellAll ps ++ after) (tokensAll ps) after :=
  match ps with
  | [] => lexes_nil after
  | p :: rest => by
    rw [Fits] at fits
    rw [spellAll, tokensAll, List.append_assoc]
    exact (lexes_piece p fits.1).append (lexes_spellAll rest fits.2)

end

/-- **Pieces that fit are read as their tokens.** -/
theorem trees_layout {ps : List Piece} (fits : Fits [] ps) :
    ∃ read, trees (spellAll ps) = .ok read ∧ Tree.tokens read = tokensAll ps := by
  have lexed := lexes_spellAll ps fits
  rw [List.append_nil] at lexed
  exact trees_of_lexes lexed

/-! ## Looking at pieces -/

/-- whether names and literals end in front of a text -/
def endsHere : List Char → Bool
  | [] => true
  | c :: _ => !isWordRest c && c != '"' && c != '#' && c != '\''

theorem ends_of_endsHere {s : List Char} (h : endsHere s = true) : Ends s := by
  cases s with
  | nil => exact ends_nil
  | cons c rest =>
    simp only [endsHere, Bool.and_eq_true, Bool.not_eq_true', bne_iff_ne] at h
    exact ends_cons ⟨h.1.1.1, h.1.1.2, h.1.2, h.2⟩

mutual

/-- whether a piece is set off from the text that follows it -/
def Piece.isSetOff (after : List Char) : Piece → Bool
  | .gap blanks => blanks.all isGap
  | .word _ => endsHere after
  | .path _ => endsHere after
  | .punct c joint => isMark c && startsPunct after == joint
  | .lifetime _ => endsHere after
  | .literal _ => endsHere after
  | .group d inner =>
    !errorLiteral.isPrefixOf (opener d :: (spellAll inner ++ closer d :: after)) && areSetOff (closer d :: after) inner
  | .doc inner text => (inner || text.head? != some '/') && after.head? == some '\n'

/-- whether pieces are set off from each other and from the text that follows them -/
def areSetOff (after : List Char) : List Piece → Bool
  | [] => true
  | p :: rest => p.isSetOff (spellAll rest ++ after) && areSetOff after rest

end

mutual

/-- a piece whose names are names, whose literals are literals and whose comments stay on their lines -/
def Piece.IsSound : Piece → Prop
  | .gap _ => True
  | .word name => IsName name.toList
  | .path names => ∀ w ∈ names, IsName w.toList
  | .punct _ _ => True
  | .lifetime name => IsName name.toList
  | .literal text => IsLiteral text
  | .group _ inner => AreSound inner
  | .doc _ text => OneLine text

/-- pieces that are sound -/
def AreSound : List Piece → Prop
  | [] => True
  | p :: rest => p.IsSound ∧ AreSound rest

end

theorem areSound_append {ps qs : List Piece} : AreSound (ps ++ qs) ↔ AreSound ps ∧ AreSound qs := by
  induction ps with
  | nil => rw [List.nil_append, AreSound, true_and]
  | cons p rest ih => rw [List.cons_append, AreSound, AreSound, ih, and_assoc]

theorem areSound_flatMap {α : Type} {f : α → List Piece} {xs : List α} (h : ∀ x ∈ xs, AreSound (f x)) :
    AreSound (xs.flatMap f) := by
  induction xs with
  | nil =>
    rw [List.flatMap_nil, AreSound]
    trivial
  | cons x xs ih =>
    rw [List.flatMap_cons, areSound_append]
    exact ⟨h x List.mem_cons_self, ih fun y hy => h y (List.mem_cons_of_mem x hy)⟩

mutual

theorem fits_piece (p : Piece) {after : List Char} (setOff : p.isSetOff after = true) (sound : p.IsSound) : p.Fits after :=
  match p with
  | .gap blanks => by
    rw [Piece.isSetOff] at setOff
    rw [Piece.Fits]
    exact List.all_eq_true.1 setOff
  | .word name => by
    rw [Piece.isSetOff] at setOff
    rw [Piece.IsSound] at sound
    rw [Piece.Fits]
    exact ⟨sound, ends_of_endsHere setOff⟩
  | .path names => by
    rw [Piece.isSetOff] at setOff
    rw [Piece.IsSound] at sound
    rw [Piece.Fits]
    exact ⟨sound, ends_of_endsHere setOff⟩
  | .punct c joint => by
    rw [Piece.isSetOff, Bool.and_eq_true, beq_iff_eq] at setOff
    rwa [Piece.Fits]
  | .lifetime name => by
    rw [Piece.isSetOff] at setOff
    rw [Piece.IsSound] at sound
    rw [Piece.Fits]
    exact ⟨sound, ends_of_endsHere setOff⟩
  | .literal text => by
    rw [Piece.isSetOff] at setOff
    rw [Piece.IsSound] at sound
    rw [Piece.Fits]
    exact ⟨sound, ends_of_endsHere setOff⟩
  | .group d inner => by
    rw [Piece.isSetOff, Bool.and_eq_true, Bool.not_eq_true'] at setOff
    rw [Piece.IsSound] at sound
    rw [Piece.Fits]
    exact ⟨setOff.1, fits_of_areSetOff inner setOff.2 sound⟩
  | .doc inner text => by
    rw [Piece.isSetOff, Bool.and_eq_true, beq_iff_eq] at setOff
    rw [Piece.IsSound] at sound
    rw [Piece.Fits]
    refine ⟨sound, fun outer => ?_, List.head?_eq_some_iff.1 setOff.2⟩
    rw [outer, Bool.false_or, bne_iff_ne] at setOff
    exact setOff.1

/-- sound pieces that are set off from what follows them fit it -/
theorem fits_of_areSetOff (ps : List Piece) {after : List Char} (setOff : areSetOff after ps = true)
    (sound : AreSound ps) : Fits after ps :=
  match ps with
  | [] => by
    rw [Fits]
    trivial
  | p :: rest => by
    rw [areSetOff, Bool.and_eq_true] at setOff
    rw [AreSound] at sound
    rw [Fits]
    exact ⟨fits_piece p setOff.1 sound.1, fits_of_areSetOff rest setOff.2 sound.2⟩

end

end ProcessBuild.Source
