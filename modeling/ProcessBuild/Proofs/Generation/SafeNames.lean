/-
Any text is safe as the id of a process. The paths of its files are a fixed directory and a file named with small
letters, digits and underscores, so a file stays below the directory that it is put into; the modules and the type made
of an id are identifiers; and no generator of a build ends the program by making an identifier of another text.
- `safeFile_around`: a file named after the stem of an id.
- `guardedOutput_discover`: the generators of a build, with the identifiers that they make.
- `ids_safe`: ids as paths and as identifiers.
-/
import ProcessBuild.Proofs.Files.Places
import ProcessBuild.Proofs.Generation.Walk
import ProcessBuild.Proofs.Translation.Guarded

namespace ProcessBuild

/-! ## Paths -/

namespace Source

open Text Files

/-- a small letter, a digit or an underscore -/
def isFileChar (c : Char) : Bool := ('a' ≤ c && c ≤ 'z') || ('0' ≤ c && c ≤ '9') || c == '_'

theorem isFileChar_of_isDigit {c : Char} (digit : isDigit c = true) : isFileChar c = true := by
  simp only [isDigit, isFileChar, Bool.or_eq_true, Bool.and_eq_true, decide_eq_true_eq] at digit ⊢
  exact .inl (.inr digit)

theorem isFileChar_of_isNameChar {c : Char} (name : isNameChar c = true) (small : ¬('A' ≤ c ∧ c ≤ 'Z')) :
    isFileChar c = true := by
  simp only [isNameChar, isAlnum, isLetter, isDigit, isFileChar, Bool.or_eq_true, Bool.and_eq_true, decide_eq_true_eq]
    at name ⊢
  rcases name with ((letter | capital) | digit) | underscore
  · exact .inl (.inl letter)
  · exact absurd capital small
  · exact .inl (.inr digit)
  · exact .inr underscore

theorem not_capital_lower (c : Char) : ¬('A' ≤ lower c ∧ lower c ≤ 'Z') := by
  intro capital
  unfold lower at capital
  split at capital
  · rename_i between
    have low : 65 ≤ c.toNat := between.1
    have high : c.toNat ≤ 90 := between.2
    have valid : (c.toNat + 32).isValidChar := Or.inl (by omega)
    have bound : (Char.ofNat (c.toNat + 32)).toNat ≤ 90 := capital.2
    rw [toNat_ofNat valid] at bound
    omega
  · contradiction

theorem isFileChar_nameChar_lower (c : Char) : isFileChar (nameChar (lower c)) = true := by
  unfold nameChar
  split
  · apply isFileChar_of_isNameChar
    · assumption
    · exact not_capital_lower c
  · decide

theorem isFileChar_fileStem (id : String) : ∀ c ∈ (fileStem id).toList, isFileChar c = true := by
  rw [fileStem, identifierOf, String.toList_ofList, String.toList_ofList]
  cases id.toList with
  | nil => exact forall_chars (by decide)
  | cons first others =>
    have rest : ∀ c ∈ (others.map lower).map nameChar, isFileChar c = true := by
      rw [List.map_map]
      exact List.forall_mem_map.2 fun c _ => isFileChar_nameChar_lower c
    rw [List.map_cons, identifierChars]
    refine List.forall_mem_append.2 ⟨?_, rest⟩
    split
    · rename_i digit
      exact List.forall_mem_cons.2 ⟨by decide, List.forall_mem_singleton.2 (isFileChar_of_isDigit digit)⟩
    · exact List.forall_mem_singleton.2 (isFileChar_nameChar_lower first)

/-- the keywords, the words that are kept to become some, and the underscore -/
def keywords : List String := [
  "_", "abstract", "as", "async", "await", "become", "box", "break", "const", "continue", "crate", "do", "dyn", "else",
  "enum", "extern", "false", "final", "fn", "for", "if", "impl", "in", "let", "loop", "macro", "match", "mod", "move",
  "mut", "override", "priv", "pub", "ref", "return", "Self", "self", "static", "struct", "super", "trait", "true",
  "try", "type", "typeof", "unsafe", "unsized", "use", "virtual", "where", "while", "yield"]

/-- an identifier of ASCII characters that is no keyword -/
structure IsPlainName (w : String) : Prop where
  word : Translation.isAsciiWord w = true
  free : w ∉ keywords

theorem Identifier.isPlainName {w : String} (h : Identifier w) : IsPlainName w := by
  refine ⟨Translation.isAsciiWord_of_isName h.name, fun isKeyword => ?_⟩
  have isReserved : reserved.contains w = true := List.contains_iff_mem.2 isKeyword
  have free := h.free
  rw [isFreeWord, isReserved] at free
  cases free

/-- a path of a file in a directory that stays below wherever it is put, and whose module is an identifier -/
structure SafeFile (directory path : String) : Prop where
  /-- the name of the file, and the place that it leads to from wherever it is put -/
  file : ∃ name : String, path = directory ++ "/" ++ name ++ ".rs" ∧ name ≠ "" ∧ (∀ c ∈ name.toList, isFileChar c = true) ∧
    ∀ here root, placeFrom here (join root path) = placeFrom here root ++ [directory, name ++ ".rs"]
  below : ∀ root, below? (join root path) root = some path
  module : ∃ name, moduleName path = some name ∧ IsPlainName name

/-- **A file named with such characters**, in a directory that is, is safe where its module is an identifier. -/
theorem safeFile_of_named {directory name path : String} (whole : path = directory ++ "/" ++ name ++ ".rs")
    (directoryChars : directory ≠ "" ∧ ∀ c ∈ directory.toList, isFileChar c = true)
    (nameChars : name ≠ "" ∧ ∀ c ∈ name.toList, isFileChar c = true)
    (module : ∃ moduleOf, moduleName path = some moduleOf ∧ Identifier moduleOf) : SafeFile directory path := by
  have other : ∀ {text : String} {c : Char}, (∀ x ∈ text.toList, isFileChar x = true) → c ∈ text.toList →
      c ≠ '.' ∧ c ≠ '/' := by
    intro text c chars inText
    have isFile := chars c inText
    constructor
    all_goals
      rintro rfl
      exact absurd isFile (by decide)
  have split : path.toList = directory.toList ++ '/' :: (name.toList ++ ['.', 'r', 's']) := by
    simp [whole]
  have apart : '/' ∉ directory.toList ∧ '/' ∉ name.toList ++ ['.', 'r', 's'] := by
    refine ⟨fun inside => (other directoryChars.2 inside).2 rfl, ?_⟩
    simp only [List.mem_append, not_or]
    exact ⟨fun inside => (other nameChars.2 inside).2 rfl, by decide⟩
  -- neither the directory nor the file can be a dot or two, as both have a character that is none
  have plain : IsPlain path := by
    apply isPlain_file split apart
    obtain ⟨c, inDirectory⟩ := List.exists_mem_of_ne_nil _ (mt String.toList_eq_nil_iff.1 directoryChars.1)
    obtain ⟨d, inName⟩ := List.exists_mem_of_ne_nil _ (mt String.toList_eq_nil_iff.1 nameChars.1)
    refine List.forall_mem_cons.2 ⟨isPart_of_mem inDirectory (other directoryChars.2 inDirectory).1, ?_⟩
    exact List.forall_mem_singleton.2 (isPart_of_mem (List.mem_append_left _ inName) (other nameChars.2 inName).1)
  have places : names path = [directory, name ++ ".rs"] := by
    rw [names_file split apart, String.ofList_toList, String.ofList_append, String.ofList_toList]
  obtain ⟨moduleOf, isModule, identifier⟩ := module
  refine ⟨⟨name, whole, nameChars.1, nameChars.2, fun here root => ?_⟩, below?_join plain, moduleOf, isModule,
    identifier.isPlainName⟩
  rw [placeFrom_plain plain, places]

/-- **A file named after the stem of an id** is safe, whatever the id is. -/
theorem safeFile_around {directory path : String} (id ending : String)
    (whole : path = directory ++ "/" ++ (fileStem id ++ ending) ++ ".rs")
    (directoryChars : directory ≠ "" ∧ ∀ c ∈ directory.toList, isFileChar c = true)
    (endingChars : ∀ c ∈ ending.toList, isFileChar c = true)
    (module : ∃ moduleOf, moduleName path = some moduleOf ∧ Identifier moduleOf) : SafeFile directory path := by
  refine safeFile_of_named whole directoryChars ⟨fun empty => ?_, ?_⟩ module
  · obtain ⟨c, rest, spelled, -⟩ := (isName_identifierOf (String.ofList (id.toList.map lower))).front
    have chars := congrArg String.toList empty
    rw [String.toList_append, fileStem, spelled] at chars
    cases chars
  · rw [String.toList_append]
    exact List.forall_mem_append.2 ⟨isFileChar_fileStem id, endingChars⟩

theorem safeFile_process (id : String) : SafeFile "processes" (processPath id) :=
  safeFile_around id "" (String.toList_inj.1 (by simp [processPath])) ⟨by decide, forall_chars (by decide)⟩
    (List.forall_mem_nil _) ⟨_, moduleName_processPath id, identifier_processModule id⟩

theorem safeFile_events (id : String) : SafeFile "events" (eventsPath id) :=
  safeFile_around id "_events" (String.toList_inj.1 (by simp [eventsPath])) ⟨by decide, forall_chars (by decide)⟩
    (forall_chars (by decide)) ⟨_, moduleName_eventsPath id, identifier_eventsModule id⟩

theorem safeFile_rest (id : String) : SafeFile "rest" (restPath id) :=
  safeFile_around id "_resource" (String.toList_inj.1 (by simp [restPath])) ⟨by decide, forall_chars (by decide)⟩
    (forall_chars (by decide)) ⟨_, moduleName_restPath id, identifier_restModule id⟩

end Source

/-! ## Identifiers of generators -/

namespace Generation

open Source Translation

/-- the identifiers that the crate root makes: its modules, the module and the type of each process, and the runtime -/
def crateRootIdentifiers (runtime : String) (sources processIds : List String) : List String :=
  (crateModules sources).map Prod.snd ++
    processIds.flatMap (fun id => (moduleName (processPath id)).toList ++ [processTypeName id]) ++ [runtime]

/-- `Generator.output` with the identifiers that the generator makes; none where one of them is no identifier -/
def guardedOutput (input : GenerationInput) : Generator → Option (Except BuildError (List Artifact))
  | .process id =>
    match input.model? id with
    | none => some (.ok [])
    | some m => (guardedCompile m input.kinds input.runtimeCrate).map fun compiled =>
      ((compiled.map fun p => Source.text p.tokens).mapError (.translation id)).map fun content =>
        [⟨.source, processPath id, content⟩]
  | .crateRoot sources processIds =>
    if (crateRootIdentifiers input.runtime sources processIds).all makesIdentifier then
      some (Generator.output input (.crateRoot sources processIds))
    else none
  | g => some (g.output input)

/-- the artifacts of a list of generators; none where one of them makes an identifier of another text -/
def guardedRun (generators : List Generator) (input : GenerationInput) : Option (Except BuildError (List Artifact)) :=
  (generators.mapM fun g => (guardedOutput input g).map fun output => (g.name, output)).map (gather [])

theorem guardedOutput_process (input : GenerationInput) (id : String) :
    guardedOutput input (.process id) = some (Generator.output input (.process id)) := by
  simp only [guardedOutput, guardedCompile_eq, Generator.output, Generator.ofModel]
  cases input.model? id with
  | none => rfl
  | some m => rfl

theorem isName_crateRootIdentifiers {sources : List String} (runtime : String)
    (named : ∀ path ∈ sources, ∃ name, moduleName path = some name ∧ Identifier name) (processIds : List String) :
    ∀ name ∈ crateRootIdentifiers (identifierOf runtime) sources processIds, IsName name.toList := by
  intro name isOne
  simp only [crateRootIdentifiers, List.mem_append, List.mem_map, List.mem_flatMap, List.mem_singleton] at isOne
  rcases isOne with (⟨m, isModule, rfl⟩ | ⟨id, -, isModule | isType⟩) | isRuntime
  · exact (identifier_crateModules named m isModule).name
  · rw [moduleName_processPath, Option.toList_some, List.mem_singleton] at isModule
    exact isModule ▸ (identifier_processModule id).name
  · exact isType ▸ isName_processTypeName id
  · exact isRuntime ▸ isName_identifierOf runtime

/-- **The generators of a build** make identifiers of identifiers only, whatever the models are that they look up. -/
theorem guardedOutput_discover (input : GenerationInput) {models : List ProcessModel} {e : Environment} {wantsRest : Bool}
    {g : Generator} (discovered : g ∈ discover models e wantsRest) : guardedOutput input g = some (g.output input) := by
  cases g with
  | process id => exact guardedOutput_process input id
  | crateRoot sources processIds =>
    obtain ⟨generators, rfl⟩ : ∃ generators : List Generator, sources = generators.filterMap Generator.moduleSource? := by
      unfold discover at discovered
      rcases List.mem_append.1 discovered with isSource | isLast
      · -- none of the generators of sources is the crate root
        exfalso
        simp only [List.mem_append, List.mem_map, reduceCtorEq, and_false, exists_false, or_false, false_or] at isSource
        rcases isSource with (isRest | isMessaging) | isHotReload
        · split at isRest <;> simp at isRest
        · split at isMessaging <;> simp at isMessaging
        · split at isHotReload <;> simp at isHotReload
      · rcases List.mem_cons.1 isLast with isRoot | isManifest
        · exact ⟨_, (Generator.crateRoot.inj isRoot).1⟩
        · cases List.mem_singleton.1 isManifest
    have identifiers := isName_crateRootIdentifiers input.runtimeCrate (moduleSources_named generators) processIds
    apply if_pos
    rw [List.all_eq_true]
    intro name isOne
    exact makesIdentifier_of_isName (identifiers name isOne)
  | _ => rfl

/-- generators that make identifiers of identifiers only all come to their outputs -/
theorem mapM_guardedOutput {input : GenerationInput} {generators : List Generator}
    (made : ∀ g ∈ generators, guardedOutput input g = some (g.output input)) :
    (generators.mapM fun g => (guardedOutput input g).map fun output => (g.name, output)) =
      some (generators.map fun g => (g.name, g.output input)) := by
  induction generators with
  | nil => rfl
  | cons g rest ih =>
    obtain ⟨first, others⟩ := List.forall_mem_cons.1 made
    rw [List.mapM_cons, first, ih others]
    rfl

/-- **Any text is safe as an id.** The paths of the files of a process are a fixed directory and a file named with small
letters, digits and underscores, which stays below the directory that it is put into; its modules and its type are
identifiers. No translation, and no generator of a build, makes an identifier of another text. -/
theorem ids_safe :
    (∀ id, SafeFile "processes" (processPath id) ∧ SafeFile "events" (eventsPath id) ∧ SafeFile "rest" (restPath id) ∧
      IsPlainName (processTypeName id)) ∧
    (∀ m kinds runtime, guardedCompile m kinds runtime = some (compile m kinds runtime)) ∧
    (∀ input models e wantsRest, ∀ g ∈ discover models e wantsRest, guardedOutput input g = some (g.output input)) ∧
    ∀ input e wantsRest,
      guardedRun (discover input.models e wantsRest) input = some (run (discover input.models e wantsRest) input) := by
  refine ⟨fun id => ⟨safeFile_process id, safeFile_events id, safeFile_rest id,
    (identifier_processTypeName id).isPlainName⟩, guardedCompile_eq,
    fun input models e wantsRest g => guardedOutput_discover input, fun input e wantsRest => ?_⟩
  have outputs := mapM_guardedOutput fun g => @guardedOutput_discover input input.models e wantsRest g
  unfold guardedRun run
  rw [outputs]
  dsimp only
  rw [usable_discover]
  rfl

end Generation
end ProcessBuild
