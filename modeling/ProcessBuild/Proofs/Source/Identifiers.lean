/-
Identifiers in generated source: names that are none of the reserved words. The names of types, builders and modules
are made so that no text of a model turns one of them into a reserved word.
- `identifier_typeName`: the types made of a process type and an ending.
- `moduleName_processPath`, `moduleName_eventsPath`, `moduleName_restPath`: the modules of the files of a process.
- `printable_path`, `printable_separated`: what is spelled from identifiers.
-/
import ProcessBuild.Proofs.Source.TokenText
import ProcessBuild.Source.Stream

namespace ProcessBuild.Source

open Text

/-! ## Words that are not reserved -/

/-- a name that is no reserved word -/
structure Identifier (w : String) : Prop where
  name : IsName w.toList
  free : isFreeWord w = true

def isNameText (w : String) : Bool := w.toList.all isNameChar && w.toList.head?.any fun c => !isDigit c

theorem isName_of_text {w : String} (h : isNameText w = true) : IsName w.toList := by
  unfold isNameText at h
  obtain ⟨chars, front⟩ := Bool.and_eq_true_iff.1 h
  refine ⟨List.all_eq_true.1 chars, ?_⟩
  cases e : w.toList with
  | nil =>
    rw [e] at front
    cases front
  | cons c rest =>
    rw [e] at front
    exact ⟨c, rest, rfl, (Bool.not_eq_true' _).mp front⟩

theorem isNameText_iff {w : String} : isNameText w = true ↔ IsName w.toList := by
  refine ⟨isName_of_text, fun h => ?_⟩
  obtain ⟨c, rest, spelled, digit⟩ := h.front
  unfold isNameText
  rw [List.all_eq_true.2 h.chars, spelled, List.head?_cons, Option.any_some, digit]
  rfl

instance (w : String) : Decidable (IsName w.toList) := decidable_of_iff (isNameText w = true) isNameText_iff

theorem identifier_of_text {w : String} (h : (isNameText w && isFreeWord w) = true) : Identifier w :=
  ⟨isName_of_text (Bool.and_eq_true_iff.1 h).1, (Bool.and_eq_true_iff.1 h).2⟩

theorem isFreeWord_of_not_mem {w : String} (h : w ∉ reserved) : isFreeWord w = true := by
  unfold isFreeWord
  rw [Bool.not_eq_true', List.contains_eq_mem, decide_eq_false_iff_not]
  exact h

theorem isFreeWord_of_char {w : String} (p : Char → Bool) (none : ∀ k ∈ reserved, k.toList.any p = false)
    (h : w.toList.any p = true) : isFreeWord w = true := by
  refine isFreeWord_of_not_mem fun isReserved => ?_
  rw [none w isReserved] at h
  cases h

/-- a word that is longer than every reserved word -/
theorem isFreeWord_of_length {w : String} (h : 8 < w.toList.length) : isFreeWord w = true := by
  refine isFreeWord_of_not_mem fun isReserved => ?_
  have short : ∀ k ∈ reserved, k.toList.length ≤ 8 := by decide
  exact absurd h (Nat.not_lt.2 (short w isReserved))

theorem isFreeWord_of_digit {w : String} (h : w.toList.any isDigit = true) : isFreeWord w = true :=
  isFreeWord_of_char isDigit (by decide) h

theorem IsName.append {s t : List Char} (h : IsName s) (chars : ∀ c ∈ t, isNameChar c = true) : IsName (s ++ t) := by
  obtain ⟨c, rest, rfl, digit⟩ := h.front
  refine ⟨fun x hx => ?_, c, rest ++ t, rfl, digit⟩
  rcases List.mem_append.1 hx with first | second
  · exact h.chars x first
  · exact chars x second

/-! ## Types -/

/-- **The type of a process with an ending** is an identifier. -/
theorem identifier_typeName (id ending : String) (h : ∀ c ∈ ending.toList, isNameChar c = true) :
    Identifier (processTypeName id ++ ending) := by
  refine ⟨by rw [String.toList_append]; exact (isName_processTypeName id).append h,
    isFreeWord_of_char (· == 'P') (by decide) ?_⟩
  obtain ⟨front, e, -, -⟩ := processTypeName_eq id
  rw [String.toList_append, e, String.toList_ofList]
  simp only [List.any_append, List.any_cons, beq_self_eq_true, Bool.true_or, Bool.or_true]

theorem identifier_processTypeName (id : String) : Identifier (processTypeName id) := by
  have whole := identifier_typeName id "" (forall_chars (by decide))
  rwa [String.append_empty] at whole

/-! ## Modules -/

theorem isName_fileStem (id : String) : IsName (fileStem id).toList := isName_identifierOf _

/-- the characters of a module name stand for themselves where they are name characters -/
theorem map_moduleChar {s : List Char} (h : ∀ c ∈ s, isNameChar c = true) :
    s.map (fun c => if isAlnum c then c else '_') = s := by
  refine (List.map_congr_left fun c hc => ?_).trans (List.map_id' s)
  have name := h c hc
  unfold isNameChar at name
  split
  · rfl
  · rename_i noAlnum
    rw [Bool.not_eq_true] at noAlnum
    rw [noAlnum, Bool.false_or, beq_iff_eq] at name
    exact name.symm

theorem moduleName_path {path name : String} (directory file : List Char)
    (spelled : path.toList = directory ++ '/' :: file ++ ['.', 'r', 's'])
    (named : name.toList = directory ++ '_' :: file) (directoryChars : ∀ c ∈ directory, isNameChar c = true)
    (fileChars : ∀ c ∈ file, isNameChar c = true) : moduleName path = some name := by
  have stem : dropEnding ['.', 'r', 's'] path.toList = directory ++ '/' :: file := by
    unfold dropEnding
    rw [spelled, if_pos (List.isSuffixOf_iff_suffix.2 (List.suffix_append _ _)), List.length_append,
      Nat.add_sub_cancel, List.take_left']
    rfl
  have inDirectory : directory ++ '/' :: file ≠ crateRootStem := by
    intro e
    have slash : '/' ∈ crateRootStem := e ▸ List.mem_append_right _ List.mem_cons_self
    exact absurd slash (by decide)
  have module : (directory ++ '/' :: file).map (fun c => if isAlnum c then c else '_') = name.toList := by
    rw [named, List.map_append, List.map_cons, map_moduleChar directoryChars, map_moduleChar fileChars]
    rfl
  unfold moduleName
  simp only [stem, inDirectory, if_false, module, String.ofList_toList]

theorem identifier_module (front ending id : String) (name : IsName front.toList)
    (chars : ∀ c ∈ ending.toList, isNameChar c = true) (long : 7 < front.toList.length + ending.toList.length) :
    Identifier (front ++ fileStem id ++ ending) := by
  have spelled : (front ++ fileStem id ++ ending).toList = front.toList ++ ((fileStem id).toList ++ ending.toList) := by
    rw [String.toList_append, String.toList_append, List.append_assoc]
  obtain ⟨c, rest, stem, -⟩ := (isName_fileStem id).front
  refine ⟨?_, isFreeWord_of_length ?_⟩
  · rw [spelled]
    refine name.append fun x hx => ?_
    rcases List.mem_append.1 hx with inStem | inEnding
    · exact (isName_fileStem id).chars x inStem
    · exact chars x inEnding
  · rw [spelled, stem, List.length_append, List.length_append, List.length_cons]
    omega

theorem identifier_processModule (id : String) : Identifier ("processes_" ++ fileStem id) := by
  have whole := identifier_module "processes_" "" id (isName_of_text rfl) (forall_chars (by decide)) (by decide)
  rwa [String.append_empty] at whole

theorem identifier_eventsModule (id : String) : Identifier ("events_" ++ fileStem id ++ "_events") :=
  identifier_module "events_" "_events" id (isName_of_text rfl) (forall_chars (by decide)) (by decide)

theorem identifier_restModule (id : String) : Identifier ("rest_" ++ fileStem id ++ "_resource") :=
  identifier_module "rest_" "_resource" id (isName_of_text rfl) (forall_chars (by decide)) (by decide)

theorem moduleName_processPath (id : String) : moduleName (processPath id) = some ("processes_" ++ fileStem id) := by
  refine moduleName_path "processes".toList (fileStem id).toList ?_ ?_ (forall_chars (by decide))
    (isName_fileStem id).chars
  · simp [processPath]
  · simp

theorem moduleName_eventsPath (id : String) : moduleName (eventsPath id) = some ("events_" ++ fileStem id ++ "_events") := by
  refine moduleName_path "events".toList ((fileStem id).toList ++ "_events".toList) ?_ ?_ (forall_chars (by decide))
    ((isName_fileStem id).append (forall_chars (by decide))).chars
  · simp [eventsPath]
  · simp

theorem moduleName_restPath (id : String) : moduleName (restPath id) = some ("rest_" ++ fileStem id ++ "_resource") := by
  refine moduleName_path "rest".toList ((fileStem id).toList ++ "_resource".toList) ?_ ?_ (forall_chars (by decide))
    ((isName_fileStem id).append (forall_chars (by decide))).chars
  · simp [restPath]
  · simp

/-! ## Spelling -/

/-- whether what a joined character can be joined to comes next -/
def joinsText (c : Char) : List Token → Bool
  | .punct d _ :: _ => Lexer.isMark c && (Lexer.isMark d || d == '\'')
  | .word name :: _ => c == '\'' && isNameText name
  | _ => false

mutual

/-- whether a token without literals is read back when it is spelled -/
def isPlainToken (rest : List Token) : Token → Bool
  | .word name => isNameText name
  | .punct c false => Lexer.isMark c
  | .punct c true => joinsText c rest
  | .literal _ => false
  | .group _ inner => isPlain inner

/-- whether tokens without literals are read back when they are spelled -/
def isPlain : List Token → Bool
  | [] => true
  | t :: rest => isPlainToken rest t && isPlain rest

end

theorem joins_of_text {c : Char} {ts : List Token} (h : joinsText c ts = true) : Joins c ts := by
  unfold joinsText at h
  split at h
  · obtain ⟨mark, other⟩ := Bool.and_eq_true_iff.1 h
    exact ⟨mark, (Bool.or_eq_true_iff.1 other).imp_right beq_iff_eq.1⟩
  · obtain ⟨quote, name⟩ := Bool.and_eq_true_iff.1 h
    exact ⟨beq_iff_eq.1 quote, isName_of_text name⟩
  · cases h

mutual

theorem prints_of_isPlain (rest : List Token) (t : Token) (h : isPlainToken rest t = true) : t.Prints rest :=
  match t with
  | .word name => by
    rw [isPlainToken] at h
    rw [Token.Prints]
    exact Lexer.isIdentifier_of_isName (isName_of_text h)
  | .punct c false => by
    rw [isPlainToken] at h
    rwa [Token.Prints]
  | .punct c true => by
    rw [isPlainToken] at h
    rw [Token.Prints]
    exact joins_of_text h
  | .literal text => by
    rw [isPlainToken] at h
    cases h
  | .group d inner => by
    rw [isPlainToken] at h
    rw [Token.Prints]
    exact printable_of_isPlain inner h

/-- tokens without literals are read back when a look at them tells so -/
theorem printable_of_isPlain (ts : List Token) (h : isPlain ts = true) : Printable ts :=
  match ts with
  | [] => printable_nil.2 trivial
  | t :: rest => by
    rw [isPlain, Bool.and_eq_true] at h
    exact printable_cons.2 ⟨prints_of_isPlain rest t h.1, printable_of_isPlain rest h.2⟩

end

theorem printable_identifier {w : String} (h : Lexer.IsIdentifier w.toList) : Printable [.word w] :=
  printable_cons.2 ⟨by rwa [Token.Prints], printable_nil.2 trivial⟩

theorem printable_word {w : String} (h : IsName w.toList) : Printable [.word w] :=
  printable_identifier (Lexer.isIdentifier_of_isName h)

theorem printable_mark {c : Char} (h : Lexer.isMark c = true) : Printable [.mark c] :=
  printable_cons.2 ⟨by rwa [Token.mark, Token.Prints], printable_nil.2 trivial⟩

theorem printable_literal {text : String} (h : IsLiteral text) : Printable [.literal text] :=
  printable_cons.2 ⟨by rwa [Token.Prints], printable_nil.2 trivial⟩

theorem printable_string (s : String) : Printable [.string s] := printable_literal (isLiteral_string s)

theorem printable_group {d : Delimiter} {ts : List Token} (h : Printable ts) : Printable [.group d ts] :=
  printable_cons.2 ⟨by rwa [Token.Prints], printable_nil.2 trivial⟩

/-- a path of names is spelled as it is read -/
theorem printable_path {names : List String} (h : ∀ w ∈ names, IsName w.toList) : Printable (Token.path names) := by
  induction names with
  | nil => exact printable_nil.2 trivial
  | cons w names ih =>
    have name := printable_word (h w List.mem_cons_self)
    have others := ih fun v hv => h v (List.mem_cons_of_mem w hv)
    cases names with
    | nil => exact name
    | cons v names => exact name.append ((printable_of_isPlain Token.pathSeparator rfl).append others)

/-- printable texts with commas between them -/
theorem printable_separated {chunks : List (List Token)} (h : ∀ ts ∈ chunks, Printable ts) :
    Printable (Token.separated chunks) := by
  induction chunks with
  | nil => exact printable_nil.2 trivial
  | cons ts chunks ih =>
    have first := h ts List.mem_cons_self
    have others := ih fun us hus => h us (List.mem_cons_of_mem ts hus)
    cases chunks with
    | nil => exact first
    | cons us chunks => exact first.append ((printable_mark rfl).append others)

end ProcessBuild.Source
