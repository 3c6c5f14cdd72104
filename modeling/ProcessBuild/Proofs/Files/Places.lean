/-
Places of paths. A path leads to the place that is found by following its pieces from where the path starts, whatever the
tree is: a tree decides only whether the path can be followed. So two trees with the same directories lead a path to the
same place, and the places below a directory are known from the names of the paths.
- `placeFrom`: the place of a path.
- `locate_eq`, `locate_mono`: the place that a tree leads a path to, and that a tree with more directories does as well.
- `placeFrom_join`, `placeFrom_plain`: the place of a path that is seen from a directory.
- `below?_join`: a path that is seen from a directory is found below it again.
-/
import ProcessBuild.Files.Tree
import ProcessBuild.Proofs.Results

namespace ProcessBuild

/-! ## Pieces -/

namespace Text

variable {separator : Char} {s : List Char}

theorem pieces_append (separator : Char) (s rest : List Char) :
    pieces separator (s ++ separator :: rest) = pieces separator s ++ pieces separator rest := by
  induction s with
  | nil => simp [pieces]
  | cons c s ih =>
    rw [List.cons_append, pieces, pieces, ih]
    by_cases isSeparator : c = separator
    · rw [if_pos isSeparator, if_pos isSeparator, List.cons_append]
    · rw [if_neg isSeparator, if_neg isSeparator]
      cases first : pieces separator s with
      | nil => exact absurd first (pieces_ne_nil separator s)
      | cons p ps => rfl

theorem pieces_eq_singleton (h : separator ∉ s) : pieces separator s = [s] := by
  induction s with
  | nil => rfl
  | cons c s ih =>
    obtain ⟨other, rest⟩ := not_or.1 fun inList => h (List.mem_cons.2 inList)
    rw [pieces, if_neg (Ne.symm other), ih rest]

theorem dropWhile_of_head {α : Type} {p : α → Bool} {l : List α} (h : ∀ a, l.head? = some a → p a = false) :
    l.dropWhile p = l := by
  cases l with
  | nil => rfl
  | cons a l => simp [h a rfl]

theorem pieces_injective (separator : Char) : Function.Injective (pieces separator) := by
  intro s t same
  rw [← joinPieces_pieces separator s, same, joinPieces_pieces]

end Text

namespace Files

open Text

/-! ## Places -/

/-- the place that a piece leads to -/
def follow (place : Location) (piece : List Char) : Location :=
  if !Spelling.isPart piece then place
  else if piece = ['.', '.'] then place.dropLast
  else place ++ [String.ofList piece]

theorem isRooted_iff {path : String} : isRooted path = true ↔ ∃ rest, path.toList = '/' :: rest := by
  unfold isRooted
  rw [decide_eq_true_iff, List.head?_eq_some_iff]

/-- the place of a path -/
def placeFrom (here : Location) (path : String) : Location :=
  (pieces '/' path.toList).foldl follow (if isRooted path then [] else here)

namespace Tree

variable {t t' : Tree} {place target : Location} {piece : List Char} {path : String}

theorem requireDirectory_ok_iff : t.requireDirectory place = .ok () ↔ t.entryAt place = some .directory := by
  unfold requireDirectory
  split
  · rename_i nothing
    simp [nothing]
  · rename_i isFile
    simp [isFile]
  · rename_i isDirectory
    simp [isDirectory]

theorem step_ok (h : t.step place piece = .ok target) :
    t.entryAt place = some .directory ∧ target = follow place piece := by
  obtain ⟨_, required, h⟩ := bind_eq_ok_iff.1 h
  refine ⟨requireDirectory_ok_iff.1 required, ?_⟩
  unfold follow
  split at h
  · rename_i noPart
    rw [if_pos noPart]
    exact (Except.ok.inj h).symm
  · rename_i isPart
    rw [if_neg isPart]
    split at h
    · rename_i up
      rw [if_pos up]
      exact (Except.ok.inj h).symm
    · rename_i name
      rw [if_neg name]
      split at h
      · cases h
      · exact (Except.ok.inj h).symm

/-- a piece that can be followed in one tree can be in another one with the directory -/
theorem step_of_directory (h : t.step place piece = .ok target) (isDirectory : t'.entryAt place = some .directory) :
    t'.step place piece = .ok target := by
  obtain ⟨_, -, h⟩ := bind_eq_ok_iff.1 h
  exact bind_eq_ok_iff.2 ⟨(), requireDirectory_ok_iff.2 isDirectory, h⟩

/-- **Pieces** are followed one by one. -/
theorem walk_eq {pieces : List (List Char)} (h : t.walk place pieces = .ok target) :
    target = pieces.foldl follow place := by
  induction pieces generalizing place with
  | nil => exact (Except.ok.inj h).symm
  | cons piece pieces ih =>
    obtain ⟨next, stepped, walked⟩ := bind_eq_ok_iff.1 h
    obtain ⟨-, rfl⟩ := step_ok stepped
    exact ih walked

/-- every directory of one tree is a directory of another one, and relative paths start at one place -/
structure Within (t t' : Tree) : Prop where
  here : t'.here = t.here
  directories : ∀ place, t.entryAt place = some .directory → t'.entryAt place = some .directory

theorem walk_mono {pieces : List (List Char)} (h : t.walk place pieces = .ok target) (within : t.Within t') :
    t'.walk place pieces = .ok target := by
  induction pieces generalizing place with
  | nil => exact h
  | cons piece pieces ih =>
    obtain ⟨next, stepped, walked⟩ := bind_eq_ok_iff.1 h
    have isDirectory := within.directories place (step_ok stepped).1
    exact bind_eq_ok_iff.2 ⟨next, step_of_directory stepped isDirectory, ih walked⟩

/-- where a path starts, and the pieces that are followed from there -/
theorem start_ok {start : Location} {pieces : List (List Char)} (h : t.start path = .ok (start, pieces)) :
    placeFrom t.here path = pieces.foldl follow start := by
  unfold Tree.start at h
  unfold placeFrom
  dsimp only at h
  split at h
  · cases h
  split at h
  · cases h
  · rename_i rest rooted
    obtain ⟨rfl, rfl⟩ := Prod.mk.inj (Except.ok.inj h)
    rw [if_pos (isRooted_iff.2 ⟨rest, rooted⟩), rooted]
    rfl
  · rename_i notEmpty notRooted
    obtain ⟨rfl, rfl⟩ := Prod.mk.inj (Except.ok.inj h)
    rw [if_neg]
    intro rooted
    obtain ⟨rest, whole⟩ := isRooted_iff.1 rooted
    exact notRooted rest whole

/-- **The place that a path leads to** is the place of the path. -/
theorem locate_eq (h : t.locate path = .ok place) : place = placeFrom t.here path := by
  obtain ⟨⟨start, pieces⟩, started, walked⟩ := bind_eq_ok_iff.1 h
  exact (walk_eq walked).trans (start_ok started).symm

/-- a path leads to the same place in a tree with more directories -/
theorem locate_mono (h : t.locate path = .ok place) (within : t.Within t') : t'.locate path = .ok place := by
  obtain ⟨⟨start, pieces⟩, started, walked⟩ := bind_eq_ok_iff.1 h
  have startedThere : t'.start path = .ok (start, pieces) := by
    unfold Tree.start at started ⊢
    rwa [within.here]
  exact bind_eq_ok_iff.2 ⟨(start, pieces), startedThere, walk_mono walked within⟩

/-- the slot behind the last piece of a path that ends with a step to a name -/
theorem slot_place {pieces before : List (List Char)} {last : List Char} {slash : Bool} {start : Location}
    (h : (do
      let directory ← t.walk start before.reverse
      let target ← t.step directory last
      if last = ['.'] ∨ last = ['.', '.'] then return .directory
      else return .place target (pieces.getLast? = some [])) = (.ok (.place place slash) : Except Fault Slot)) :
    t.walk start (before.reverse ++ [last]) = .ok place ∧ slash = decide (pieces.getLast? = some []) := by
  obtain ⟨directory, walked, h⟩ := bind_eq_ok_iff.1 h
  obtain ⟨target, stepped, h⟩ := bind_eq_ok_iff.1 h
  split at h
  · cases h
  · obtain ⟨rfl, rfl⟩ := Slot.place.inj (Except.ok.inj h)
    refine ⟨?_, rfl⟩
    unfold walk at walked ⊢
    rw [List.foldlM_append]
    exact bind_eq_ok_iff.2 ⟨directory, walked, bind_eq_ok_iff.2 ⟨target, stepped, rfl⟩⟩

/-- **The slot of a path** that does not end with a slash is the place that the path leads to. -/
theorem slot_ok (h : t.slot path = .ok (.place place false)) : t.locate path = .ok place := by
  obtain ⟨⟨start, pieces⟩, started, h⟩ := bind_eq_ok_iff.1 h
  refine bind_eq_ok_iff.2 ⟨(start, pieces), started, ?_⟩
  dsimp only at h ⊢
  cases reversed : pieces.reverse with
  | nil =>
    rw [reversed] at h
    cases h
  | cons last before =>
    have whole : pieces = before.reverse ++ [last] := by
      rw [← List.reverse_reverse pieces, reversed, List.reverse_cons]
    -- a path that ends with a slash has an empty last piece, and its slot says so
    by_cases slashed : last = []
    · have ends : pieces.getLast? = some [] := by rw [whole, slashed, List.getLast?_append_of_ne_nil _ (by simp)]; rfl
      split at h
      · cases h
      · obtain ⟨-, slash⟩ := slot_place h
        rw [ends] at slash
        cases slash
    · rw [reversed, List.dropWhile_cons_of_neg (by simpa using slashed)] at h
      rw [whole]
      exact (slot_place h).1

end Tree

/-! ## Joined paths -/

section Joined

variable {directory path : String} {here : Location}

theorem isRooted_append (h : directory.toList ≠ []) (rest : String) : isRooted (directory ++ rest) = isRooted directory := by
  unfold isRooted
  rw [String.toList_append, List.head?_append_of_ne_nil _ h]

/-- **A relative path** is followed from the place of the directory that it is seen from. -/
theorem placeFrom_join (relative : isRooted path = false) (here : Location) (directory : String) :
    placeFrom here (join directory path) = (pieces '/' path.toList).foldl follow (placeFrom here directory) := by
  have notRooted : ¬isRooted path = true := Bool.eq_false_iff.1 relative
  unfold join
  rw [if_neg notRooted]
  by_cases none : directory.toList = []
  · obtain rfl : directory = "" := String.toList_inj.1 none
    have start : placeFrom here "" = here := rfl
    rw [if_pos (by simp), String.empty_append, start]
    unfold placeFrom
    rw [if_neg notRooted]
  by_cases slashed : directory.toList.getLast? = some '/'
  · obtain ⟨front, whole⟩ := List.getLast?_eq_some_iff.1 slashed
    rw [if_pos (by simp [slashed])]
    unfold placeFrom
    rw [isRooted_append none, String.toList_append, whole, List.append_assoc, List.singleton_append, pieces_append,
      pieces_append, List.foldl_append, List.foldl_append]
    rfl
  · have nonempty : directory ≠ "" := fun empty => none (String.toList_inj.2 empty)
    have slash : "/".toList ++ path.toList = '/' :: path.toList := rfl
    rw [if_neg (by simp [slashed, nonempty])]
    unfold placeFrom
    rw [String.append_assoc, isRooted_append none, String.toList_append, String.toList_append, slash, pieces_append,
      List.foldl_append]

/-- a path of names: none of its pieces stays or goes up -/
def IsPlain (path : String) : Prop := ∀ piece ∈ pieces '/' path.toList, Spelling.isPart piece = true ∧ piece ≠ ['.', '.']

instance (path : String) : Decidable (IsPlain path) :=
  inferInstanceAs (Decidable (∀ piece ∈ pieces '/' path.toList, Spelling.isPart piece = true ∧ piece ≠ ['.', '.']))

def names (path : String) : List String := (pieces '/' path.toList).map String.ofList

theorem names_injective : Function.Injective names := by
  intro path other same
  have chars : Function.Injective String.ofList := fun _ _ => String.ofList_inj.1
  exact String.toList_inj.1 (pieces_injective '/' (List.map_injective_iff.2 chars same))

theorem foldl_follow {place : Location} {pieces : List (List Char)}
    (plain : ∀ piece ∈ pieces, Spelling.isPart piece = true ∧ piece ≠ ['.', '.']) :
    pieces.foldl follow place = place ++ pieces.map String.ofList := by
  induction pieces generalizing place with
  | nil => exact (List.append_nil place).symm
  | cons piece pieces ih =>
    obtain ⟨⟨isPart, notUp⟩, rest⟩ := List.forall_mem_cons.1 plain
    have next : follow place piece = place ++ [String.ofList piece] := by
      unfold follow
      rw [isPart, if_neg notUp]
      rfl
    rw [List.foldl_cons, next, ih rest, List.append_assoc, List.map_cons, List.singleton_append]

theorem isRooted_of_isPlain (plain : IsPlain path) : isRooted path = false := by
  rw [← Bool.not_eq_true, isRooted_iff]
  rintro ⟨rest, whole⟩
  unfold IsPlain at plain
  rw [whole] at plain
  exact absurd (plain [] List.mem_cons_self).1 Bool.false_ne_true

/-- **A path of names** leads to the place with these names below the directory that it is seen from. -/
theorem placeFrom_plain (plain : IsPlain path) (here : Location) (directory : String) :
    placeFrom here (join directory path) = placeFrom here directory ++ names path :=
  (placeFrom_join (isRooted_of_isPlain plain) here directory).trans (foldl_follow plain)

/-- a path of names that is seen from nowhere else leads to the place with these names from where it starts -/
theorem placeFrom_names (plain : IsPlain path) (here : Location) : placeFrom here path = here ++ names path := by
  unfold placeFrom
  rw [isRooted_of_isPlain plain]
  exact foldl_follow plain

theorem names_ne_nil (path : String) : names path ≠ [] := fun none =>
  pieces_ne_nil '/' path.toList (List.map_eq_nil_iff.1 none)

/-- a rooted path is followed from the root, wherever relative paths start -/
theorem locate_rooted (rooted : isRooted path = true) (t : Tree) (here : Location) :
    ({ t with here } : Tree).locate path = t.locate path := by
  obtain ⟨rest, whole⟩ := isRooted_iff.1 rooted
  unfold Tree.locate Tree.start
  rw [whole]
  rfl

theorem isRooted_join (rooted : isRooted directory = true) (path : String) : isRooted (join directory path) = true := by
  obtain ⟨rest, whole⟩ := isRooted_iff.1 rooted
  have nonempty : directory.toList ≠ [] := by
    rw [whole]
    exact List.cons_ne_nil _ _
  unfold join
  split
  · assumption
  · split
    · rwa [isRooted_append nonempty]
    · rwa [String.append_assoc, isRooted_append nonempty]

/-- a piece with a character that is no dot is a name -/
theorem isPart_of_mem {piece : List Char} {c : Char} (isChar : c ∈ piece) (notDot : c ≠ '.') :
    Spelling.isPart piece = true ∧ piece ≠ ['.', '.'] := by
  have notEmpty : piece ≠ [] := List.ne_nil_of_mem isChar
  have notHere : piece ≠ ['.'] := by
    rintro rfl
    exact notDot (List.mem_singleton.1 isChar)
  have notUp : piece ≠ ['.', '.'] := by
    rintro rfl
    rcases List.mem_cons.1 isChar with first | second
    · exact notDot first
    · exact notDot (List.mem_singleton.1 second)
  exact ⟨by simp [Spelling.isPart, notEmpty, notHere], notUp⟩

theorem isPlain_file {directory file : List Char} (whole : path.toList = directory ++ '/' :: file)
    (apart : '/' ∉ directory ∧ '/' ∉ file)
    (plain : ∀ piece ∈ [directory, file], Spelling.isPart piece = true ∧ piece ≠ ['.', '.']) : IsPlain path := by
  unfold IsPlain
  rw [whole, pieces_append, pieces_eq_singleton apart.1, pieces_eq_singleton apart.2]
  exact plain

theorem names_file {directory file : List Char} (whole : path.toList = directory ++ '/' :: file)
    (apart : '/' ∉ directory ∧ '/' ∉ file) : names path = [String.ofList directory, String.ofList file] := by
  rw [names, whole, pieces_append, pieces_eq_singleton apart.1, pieces_eq_singleton apart.2]
  rfl

end Joined

/-! ## Paths below a directory -/

namespace Spelling

theorem ofChars_relative {s : List Char} (relative : s.head? ≠ some '/') :
    ofChars s = match Text.pieces '/' s with
      | ['.'] :: ps => ⟨some .here, ps⟩
      | ps => ⟨none, ps⟩ := by
  unfold ofChars
  split
  · exact absurd rfl relative
  · rfl

/-- what stands behind a slash is spelled by its own pieces -/
theorem ofChars_append {s : List Char} (nonempty : s ≠ []) (r : List Char) :
    ofChars (s ++ '/' :: r) = ⟨(ofChars s).anchor, (ofChars s).pieces ++ Text.pieces '/' r⟩ := by
  obtain ⟨c, rest, rfl⟩ := List.exists_cons_of_ne_nil nonempty
  by_cases root : c = '/'
  · subst root
    show (⟨some .root, Text.pieces '/' (rest ++ '/' :: r)⟩ : Spelling) = ⟨some .root, Text.pieces '/' rest ++ Text.pieces '/' r⟩
    rw [pieces_append]
  · have relative : (c :: rest).head? ≠ some '/' := fun same => root (Option.some.inj same)
    rw [ofChars_relative relative, ofChars_relative (s := c :: rest ++ '/' :: r) relative, pieces_append]
    cases split : Text.pieces '/' (c :: rest) with
    | nil => exact absurd split (pieces_ne_nil '/' _)
    | cons p ps =>
      by_cases dot : p = ['.']
      · subst dot
        rfl
      · simp [dot]

/-- a path of some characters has a component -/
theorem components_ne_nil {s : List Char} (nonempty : s ≠ []) : (ofChars s).components ≠ [] := by
  obtain ⟨c, rest, rfl⟩ := List.exists_cons_of_ne_nil nonempty
  by_cases root : c = '/'
  · subst root
    exact List.cons_ne_nil _ _
  · have relative : (c :: rest).head? ≠ some '/' := fun same => root (Option.some.inj same)
    obtain ⟨p, ps, split⟩ : ∃ p ps, Text.pieces '/' (c :: rest) = (c :: p) :: ps := by
      rw [Text.pieces, if_neg root]
      split
      · exact ⟨_, _, rfl⟩
      · exact ⟨_, _, rfl⟩
    rw [ofChars_relative relative, split]
    by_cases dot : c :: p = ['.']
    · rw [dot]
      exact List.cons_ne_nil _ _
    · have isPart : isPart (c :: p) = true := by simp [Spelling.isPart, dot]
      simp [dot, components, isPart]

theorem dropParts_append {ps qs : List (List Char)} (starts : ∀ q, qs.head? = some q → isPart q = true) :
    dropParts (ps.filter isPart).length (ps ++ qs) = qs := by
  induction ps with
  | nil =>
    cases qs with
    | nil => rfl
    | cons q qs => simp [dropParts, starts q rfl]
  | cons p ps ih =>
    by_cases part : isPart p = true
    · simpa [dropParts, part] using ih
    · simpa [dropParts, part] using ih

/-- dropping the components of a path that has some leaves the pieces behind them -/
theorem dropFirst_append {anchor : Option Component} {ps qs : List (List Char)}
    (filled : (⟨anchor, ps⟩ : Spelling).components ≠ []) (starts : ∀ q, qs.head? = some q → isPart q = true) :
    (⟨anchor, ps ++ qs⟩ : Spelling).dropFirst (⟨anchor, ps⟩ : Spelling).components.length =
      joinPieces '/' (trimmed qs) := by
  have dropped : dropParts (ps.filter isPart).length (ps ++ qs) = qs := dropParts_append starts
  obtain ⟨n, size⟩ := Nat.exists_eq_succ_of_ne_zero (mt List.length_eq_zero_iff.1 filled)
  have left : (if anchor.isSome then n else n + 1) = (ps.filter isPart).length := by
    rw [components, List.length_append, List.length_map] at size
    cases anchor with
    | none => exact size.symm.trans (Nat.zero_add _)
    | some a => exact (Nat.succ.inj (size.symm.trans (Nat.add_comm 1 _)))
  rw [size, dropFirst, left, dropped]

theorem trimmed_parts {ps : List (List Char)} (parts : ∀ p ∈ ps, isPart p = true) : trimmed ps = ps := by
  have kept : ps.reverse.dropWhile (fun p => !isPart p) = ps.reverse :=
    dropWhile_of_head fun p last => by rw [parts p (List.mem_reverse.1 (List.mem_of_head? last))]; rfl
  rw [trimmed, kept, List.reverse_reverse]

end Spelling

section Below

variable {path : String}

theorem parts_of_isPlain (plain : IsPlain path) : ∀ p ∈ pieces '/' path.toList, Spelling.isPart p = true :=
  fun p hp => (plain p hp).1

/-- a path of names has no anchor -/
theorem spelling_plain (plain : IsPlain path) : spelling path = ⟨none, pieces '/' path.toList⟩ := by
  have relative : path.toList.head? ≠ some '/' := by
    have notRooted := isRooted_of_isPlain plain
    rwa [isRooted, decide_eq_false_iff_not] at notRooted
  have parts := parts_of_isPlain plain
  rw [spelling, Spelling.ofChars_relative relative]
  split
  · rename_i split
    rw [split] at parts
    exact absurd (parts ['.'] List.mem_cons_self) (by decide)
  · rfl

/-- a path of names that is seen from a directory is spelled with the components of the directory in front -/
theorem spelling_join (plain : IsPlain path) (directory : String) :
    ∃ ps, spelling (join directory path) = ⟨(spelling directory).anchor, ps ++ pieces '/' path.toList⟩ ∧
      ps.filter Spelling.isPart = (spelling directory).pieces.filter Spelling.isPart ∧ (directory = "" → ps = []) := by
  unfold join
  rw [if_neg (Bool.eq_false_iff.1 (isRooted_of_isPlain plain))]
  by_cases none : directory = ""
  · subst none
    have start : spelling "" = ⟨Option.none, [[]]⟩ := rfl
    rw [if_pos (by simp), String.empty_append, start]
    exact ⟨[], spelling_plain plain, rfl, fun _ => rfl⟩
  have nonempty : directory.toList ≠ [] := fun empty => none (String.toList_inj.1 empty)
  by_cases slashed : directory.toList.getLast? = some '/'
  · obtain ⟨front, whole⟩ := List.getLast?_eq_some_iff.1 slashed
    rw [if_pos (by simp [slashed]), spelling, spelling, String.toList_append, whole, List.append_assoc,
      List.singleton_append]
    by_cases root : front = []
    · subst root
      exact ⟨[], rfl, rfl, fun _ => rfl⟩
    · rw [Spelling.ofChars_append root, Spelling.ofChars_append root]
      exact ⟨_, rfl, by simp [Text.pieces, Spelling.isPart], fun empty => absurd empty none⟩
  · have slash : "/".toList ++ path.toList = '/' :: path.toList := rfl
    rw [if_neg (by simp [slashed, none]), spelling, spelling, String.append_assoc, String.toList_append,
      String.toList_append, slash, Spelling.ofChars_append nonempty]
    exact ⟨_, rfl, rfl, fun empty => absurd empty none⟩

/-- **A path of names** that is seen from a directory is found below the directory, as it was. -/
theorem below?_join (plain : IsPlain path) (directory : String) : below? (join directory path) directory = some path := by
  obtain ⟨ps, spelled, parts, empty⟩ := spelling_join plain directory
  have whole : joinPieces '/' (Spelling.trimmed (pieces '/' path.toList)) = path.toList := by
    rw [Spelling.trimmed_parts (parts_of_isPlain plain), joinPieces_pieces]
  have inFront : (components directory).isPrefixOf (components (join directory path)) = true := by
    rw [components, components, spelled, List.isPrefixOf_iff_prefix]
    unfold Spelling.components
    rw [List.filter_append, parts, List.map_append, ← List.append_assoc]
    exact List.prefix_append _ _
  have counted : components directory = (⟨(spelling directory).anchor, ps⟩ : Spelling).components := by
    rw [components, Spelling.components, Spelling.components, parts]
  have rest : (spelling (join directory path)).dropFirst (components directory).length = path.toList := by
    rw [spelled]
    by_cases none : directory = ""
    · rw [empty none]
      subst none
      exact whole
    · have filled : components directory ≠ [] :=
        Spelling.components_ne_nil fun empty => none (String.toList_inj.1 empty)
      rw [counted] at filled ⊢
      rw [Spelling.dropFirst_append filled fun q hq => parts_of_isPlain plain q (List.mem_of_head? hq), whole]
  unfold below?
  simp only [inFront, if_true, rest, String.ofList_toList]

end Below

end Files
end ProcessBuild
