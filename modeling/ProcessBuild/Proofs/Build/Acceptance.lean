/-
When generated code is accepted. Every source of a build is accepted where paths can start with the name of the runtime
crate: an identifier, or a word for a place among the modules. The settings admit other names as well, since words that
are no identifiers are spelled like crate names; with one of these every build of a model is refused.
- `readable_artifacts`: every source that is generated is read, whatever the models are.
- `fails_of_run`: at which stage a build fails.
- `run_ne_compilation`, `run_accepted`: no such build reports that its code does not compile.
- `run_refused`: with any other name a build that generates and writes the files of a model reports just that.
-/
import ProcessBuild.Proofs.Build.Agreement

namespace ProcessBuild

open Source Grammar Generation

/-- whether a failure is one that is found before anything is written -/
def BuildError.isEarly : BuildError → Bool
  | compilation _ _ => false
  | files _ => false
  | _ => true

/-! ## Sources -/

/-- every source among artifacts is read -/
def Readable (artifacts : List Artifact) : Prop :=
  ∀ a ∈ artifacts, a.kind = .source → ∃ items, readFile a.content = .ok items

theorem Readable.single {path content : String} {items : List Item} (read : readFile content = .ok items) :
    Readable [⟨.source, path, content⟩] := by
  intro a isArtifact _
  obtain rfl := List.mem_singleton.1 isArtifact
  exact ⟨items, read⟩

namespace CompiledUnit

variable {crateName : String} {artifacts : List Artifact}

/-- sources that are read are compiled -/
theorem ofArtifacts_of_readable (readable : Readable artifacts) : ∃ units, ofArtifacts crateName artifacts = .ok units := by
  apply exists_mapM_ok
  intro a isSource
  obtain ⟨isArtifact, isSource⟩ := List.mem_filter.1 isSource
  obtain ⟨items, read⟩ := readable a isArtifact (of_decide_eq_true isSource)
  unfold ofArtifact
  rw [read]
  exact ⟨_, rfl⟩

/-- compiling fails at code that does not compile -/
theorem error_of_ofArtifacts {e : BuildError} (failed : ofArtifacts crateName artifacts = .error e) :
    ∃ path reason, e = .compilation path reason := by
  obtain ⟨a, -, failed⟩ := exists_of_mapM_error failed
  unfold ofArtifact at failed
  split at failed
  · exact ⟨_, _, (Except.error.inj failed).symm⟩
  · cases failed

/-- where a source is not read, the first one that is not is reported as code that does not compile -/
theorem ofArtifacts_of_refused {path content : String} {fault : FileFault}
    (isArtifact : ⟨.source, path, content⟩ ∈ artifacts) (refused : readFile content = .error fault) :
    ∃ path reason, ofArtifacts crateName artifacts = .error (.compilation path reason) := by
  cases compiled : ofArtifacts crateName artifacts with
  | ok units =>
    obtain ⟨items, read, -⟩ := exists_unit compiled isArtifact
    cases refused.symm.trans read
  | error failure =>
    obtain ⟨path, reason, rfl⟩ := error_of_ofArtifacts compiled
    exact ⟨path, reason, rfl⟩

end CompiledUnit

/-! ## Generation -/

namespace Generation

variable {input : GenerationInput} {e : Environment} {wantsRest : Bool} {artifacts : List Artifact}

/-- the sources of a generator are read -/
theorem readable_output (starts : startsPath input.runtime = true) {g : Generator} (discovered : IsDiscovered input g)
    (made : g.output input = .ok artifacts) : Readable artifacts := by
  have name : IsName input.runtime.toList := isName_identifierOf input.runtimeCrate
  have branch := startsBranch_of_startsPath starts
  cases g with
  | process id =>
    obtain ⟨m, found, rfl⟩ := model?_of_isSome discovered
    obtain ⟨content, compiled, rfl⟩ := (ofModel_ok_iff found).1 made
    have read := Translation.readFile_compileText (mapError_eq_ok_iff.1 compiled)
    change if startsBranch input.runtime then _ else _ at read
    rw [if_pos branch] at read
    exact .single read
  | events id =>
    obtain ⟨m, found, rfl⟩ := model?_of_isSome discovered
    obtain ⟨_, rendered, rfl⟩ := (ofModel_ok_iff found).1 made
    obtain rfl := Except.ok.inj rendered
    exact .single (readFile_eventsSource name branch m)
  | rest id =>
    obtain ⟨m, found, rfl⟩ := model?_of_isSome discovered
    obtain ⟨_, rendered, rfl⟩ := (ofModel_ok_iff found).1 made
    obtain rfl := Except.ok.inj rendered
    exact .single (readFile_restSource name branch m)
  | messaging =>
    obtain rfl := Except.ok.inj made
    exact .single (readFile_messagingSource name branch)
  | hotReload =>
    obtain rfl := Except.ok.inj made
    exact .single (readFile_hotReload input.models)
  | crateRoot sources ids =>
    obtain ⟨_, rendered, rfl⟩ := map_eq_ok_iff.1 made
    obtain rfl := Except.ok.inj ((crateRootSource_eq discovered ids).symm.trans rendered)
    exact .single (readFile_crateRoot name starts (identifier_crateModules discovered) ids)
  | manifest =>
    obtain rfl := Except.ok.inj made
    intro a isArtifact isSource
    obtain rfl := List.mem_singleton.1 isArtifact
    cases isSource
  | given name artifacts => exact discovered.elim

/-- **Every source that is generated** is read, whatever the models are. -/
theorem readable_artifacts (starts : startsPath input.runtime = true)
    (generated : run (discover input.models e wantsRest) input = .ok artifacts) : Readable artifacts := by
  obtain ⟨parts, made, rfl, -⟩ := run_ok_iff.1 generated
  intro a isArtifact
  obtain ⟨part, isPart, inPart⟩ := List.mem_flatten.1 isArtifact
  have isOutput : .ok part ∈ (discover input.models e wantsRest).map (·.output input) := by
    rw [made]
    exact List.mem_map_of_mem isPart
  obtain ⟨g, isGenerator, output⟩ := List.mem_map.1 isOutput
  exact readable_output starts (isDiscovered_discover g isGenerator) output a inPart

theorem walk_error {earlier : List String} {models : List ProcessModel} {failure : BuildError}
    (h : walk input earlier models = .error failure) :
    (∃ id fault, failure = .translation id fault) ∨ ∃ path first second, failure = .collision path first second := by
  induction models generalizing earlier with
  | nil => cases h
  | cons m rest ih =>
    rw [walk] at h
    split at h
    · exact Or.inl ⟨_, _, (Except.error.inj h).symm⟩
    · split at h
      · exact Or.inr ⟨_, _, _, (Except.error.inj h).symm⟩
      · cases walked : walk input (m.id :: earlier) rest with
        | error later =>
          rw [walked] at h
          obtain rfl := Except.error.inj h
          exact ih walked
        | ok files =>
          rw [walked] at h
          cases h

/-- with a name that paths cannot start with some source of a model is not read -/
theorem exists_refused {m : ProcessModel} (other : startsPath input.runtime = false) (isModel : m ∈ input.models)
    (generated : run (discover input.models e wantsRest) input = .ok artifacts) :
    ∃ path content fault, ⟨.source, path, content⟩ ∈ artifacts ∧ readFile content = .error fault := by
  obtain ⟨files, translated, rfl, -⟩ := run_discover_ok_iff.1 generated
  by_cases branch : startsBranch input.runtime = true
  · have isTry : input.runtime = "try" := eq_try_of_startsBranch branch other
    have named : ∀ x ∈ plannedModules input e wantsRest, Identifier x.2 := identifier_of_mem
    obtain ⟨fault, refused⟩ := crateRoot_refused named (sortedIds input.models)
    rw [← isTry] at refused
    exact ⟨"lib.rs", _, fault, crateRoot_mem files, refused⟩
  · obtain ⟨content, compiled, isFile⟩ := exists_processFile translated (mem_modelsById.2 isModel)
    have read := Translation.readFile_compileText compiled
    change if startsBranch input.runtime then _ else _ at read
    rw [if_neg branch] at read
    obtain ⟨fault, refused⟩ := read
    exact ⟨_, content, fault, List.mem_append_left _ isFile, refused⟩

/-- **Generation** fails before anything is written. -/
theorem isEarly_of_run {failure : BuildError} (failed : run (discover input.models e wantsRest) input = .error failure) :
    failure.isEarly = true := by
  rw [run_discover_eq] at failed
  cases walked : walk input [] (namedModels input) with
  | error other =>
    rw [walked] at failed
    obtain rfl := Except.error.inj failed
    rcases walk_error walked with ⟨_, _, rfl⟩ | ⟨_, _, _, rfl⟩
    · rfl
    · rfl
  | ok files =>
    rw [walked] at failed
    cases failed

end Generation

/-! ## Settings -/

namespace BuildSettings

/-- a crate name stands for itself in generated code -/
theorem identifierOf_crateName {name : String} (isCrate : isCrateName name = true) : identifierOf name = name := by
  apply identifierOf_eq_self
  unfold isCrateName at isCrate
  cases chars : name.toList with
  | nil =>
    rw [chars] at isCrate
    cases isCrate
  | cons c rest =>
    rw [chars] at isCrate
    obtain ⟨all, front⟩ := Bool.and_eq_true_iff.1 isCrate
    exact ⟨List.all_eq_true.1 all, ⟨c, rest, rfl, by simpa using front⟩⟩

theorem isCrateName_of_crateNameOf {vars : Variables} {variableName default value : String}
    (h : crateNameOf vars variableName default = .ok value) : isCrateName value = true := by
  unfold crateNameOf at h
  dsimp only at h
  split at h
  · rename_i isCrate
    exact Except.ok.inj h ▸ isCrate
  · cases h

theorem isCrateName_runtimeCrate {vars : Variables} {settings : BuildSettings} (accepted : ofVariables vars = .ok settings) :
    isCrateName settings.runtimeCrate = true := by
  obtain ⟨crateName, -, accepted⟩ := bind_eq_ok_iff.1 accepted
  obtain ⟨runtimeCrate, named, accepted⟩ := bind_eq_ok_iff.1 accepted
  obtain ⟨compilerCheck, -, accepted⟩ := bind_eq_ok_iff.1 accepted
  obtain rfl := Except.ok.inj accepted
  exact isCrateName_of_crateNameOf named

end BuildSettings

/-! ## Builds -/

namespace BuildStage

variable {α : Type}

theorem ofExcept_error_iff {e : Except BuildError α} {s t : BuildState} {failure : BuildError} :
    ofExcept e s = (.error failure, t) ↔ e = .error failure ∧ s = t := by
  rw [ofExcept, Prod.mk.injEq]

/-- work on files fails as such -/
theorem files_error {action : Files.Action α} {s t : BuildState} {e : BuildError} (h : files action s = (.error e, t)) :
    ∃ fault, e = .files fault := by
  unfold files at h
  rcases ran : action s.tree with ⟨fault | a, tree⟩
  · rw [ran] at h
    exact ⟨fault, (Except.error.inj (Prod.mk.inj h).1).symm⟩
  · rw [ran] at h
    exact nomatch (Prod.mk.inj h).1

end BuildStage

open BuildStage

namespace BuildInput

variable {input : BuildInput} {compiler : ExternalCompiler} {s : BuildState}

/-- how a build without the compiler check fails: before anything is written, in a file operation, or, once all artifacts
are written, because one of them is no code -/
inductive Fails (input : BuildInput) (s : BuildState) : BuildError → BuildState → Prop
  | early {e : BuildError} (isEarly : e.isEarly = true) : Fails input s e s
  | files (fault : Files.Fault) (t : BuildState) : Fails input s (.files fault) t
  | compilation {gate : RestGate} {artifacts : List Artifact} {written : Files.Tree} {path reason : String}
      (checked : RestGate.check input.environment = .ok gate) (generated : input.artifacts gate = .ok artifacts)
      (wrote : writeArtifacts input.settings.outputDir artifacts s.tree = (.ok (), written))
      (refused : CompiledUnit.ofArtifacts input.settings.crateName artifacts = .error (.compilation path reason)) :
      Fails input s (.compilation path reason) { s with tree := written }

/-- **A build fails** in one of these ways. -/
theorem fails_of_run {e : BuildError} {t : BuildState} (off : input.settings.compilerCheck = false)
    (h : input.run compiler s = (.error e, t)) : input.Fails s e t := by
  unfold run at h
  rcases bind_error_iff.1 h with h | ⟨gate, r, checked, h⟩
  · obtain ⟨gateFailed, rfl⟩ := ofExcept_error_iff.1 h
    obtain ⟨name, -, rfl⟩ := mapError_eq_error_iff.1 gateFailed
    exact .early rfl
  obtain ⟨gateChecked, rfl⟩ := ofExcept_ok_iff.1 checked
  have checked : RestGate.check input.environment = .ok gate := mapError_eq_ok_iff.1 gateChecked
  rcases bind_error_iff.1 h with h | ⟨artifacts, r, made, h⟩
  · obtain ⟨failed, rfl⟩ := ofExcept_error_iff.1 h
    exact .early (@isEarly_of_run input.generation _ _ _ failed)
  obtain ⟨generated, rfl⟩ := ofExcept_ok_iff.1 made
  rcases bind_error_iff.1 h with h | ⟨⟨⟩, r, stage, h⟩
  · obtain ⟨fault, rfl⟩ := files_error h
    exact .files fault t
  obtain ⟨written, wrote, rfl⟩ := files_ok_iff.1 stage
  rcases bind_error_iff.1 h with h | ⟨units, r, -, h⟩
  · rw [compile, off] at h
    obtain ⟨refused, rfl⟩ := ofExcept_error_iff.1 h
    obtain ⟨path, reason, rfl⟩ := CompiledUnit.error_of_ofArtifacts refused
    exact .compilation checked generated wrote refused
  rcases bind_error_iff.1 h with h | ⟨_, r, -, h⟩
  · obtain ⟨fault, rfl⟩ := files_error h
    exact .files fault t
  cases h

/-- a build whose artifacts cannot be generated ends with that failure, and leaves everything as it is -/
theorem run_error_of_artifacts {gate : RestGate} {e : BuildError} (checked : RestGate.check input.environment = .ok gate)
    (failed : input.artifacts gate = .error e) : input.run compiler s = (.error e, s) := by
  have gateChecked : (RestGate.check input.environment).mapError BuildError.missingCapability = .ok gate :=
    mapError_eq_ok_iff.2 checked
  unfold run
  refine bind_error_iff.2 (Or.inr ⟨gate, s, ofExcept_ok_iff.2 ⟨gateChecked, rfl⟩, ?_⟩)
  exact bind_error_iff.2 (Or.inl (ofExcept_error_iff.2 ⟨failed, rfl⟩))

/-- **A build is accepted** without the compiler check where paths can start with the name of the runtime crate. -/
theorem run_ne_compilation (off : input.settings.compilerCheck = false)
    (starts : startsPath (identifierOf input.settings.runtimeCrate) = true) (path reason : String) :
    (input.run compiler s).1 ≠ .error (.compilation path reason) := by
  intro failed
  obtain ⟨t, h⟩ : ∃ t, input.run compiler s = (.error (.compilation path reason), t) := ⟨_, Prod.ext failed rfl⟩
  cases fails_of_run off h with
  | early isEarly => cases isEarly
  | compilation checked generated wrote refused =>
    have readable := @readable_artifacts input.generation _ _ _ starts generated
    obtain ⟨units, compiled⟩ := @CompiledUnit.ofArtifacts_of_readable input.settings.crateName _ readable
    cases compiled.symm.trans refused

/-- **A build is refused** with any other name, once the files of a model are generated and written. -/
theorem run_refused {gate : RestGate} {artifacts : List Artifact} {m : ProcessModel}
    (off : input.settings.compilerCheck = false)
    (other : startsPath (identifierOf input.settings.runtimeCrate) = false) (isModel : m ∈ input.models)
    (checked : RestGate.check input.environment = .ok gate) (generated : input.artifacts gate = .ok artifacts)
    (written : (writeArtifacts input.settings.outputDir artifacts s.tree).1 = .ok ()) :
    ∃ path reason, (input.run compiler s).1 = .error (.compilation path reason) := by
  obtain ⟨path, content, fault, isArtifact, refused⟩ :=
    @exists_refused input.generation input.environment gate.generateRest artifacts m other isModel generated
  obtain ⟨path, reason, failed⟩ := @CompiledUnit.ofArtifacts_of_refused input.settings.crateName _ _ _ _ isArtifact refused
  rcases wrote : writeArtifacts input.settings.outputDir artifacts s.tree with ⟨result, tree⟩
  rw [wrote] at written
  obtain rfl : result = .ok () := written
  have gateChecked : (RestGate.check input.environment).mapError BuildError.missingCapability = .ok gate :=
    mapError_eq_ok_iff.2 checked
  have compiled : input.compile compiler artifacts { s with tree } = (.error (.compilation path reason), { s with tree }) := by
    rw [compile, off]
    exact ofExcept_error_iff.2 ⟨failed, rfl⟩
  refine ⟨path, reason, ?_⟩
  have ran : input.run compiler s = (.error (.compilation path reason), { s with tree }) := by
    -- the stages before the compilation end well; what they leave is the state the failure is found in
    unfold run
    refine bind_error_iff.2 (Or.inr ⟨gate, s, ofExcept_ok_iff.2 ⟨gateChecked, rfl⟩, ?_⟩)
    refine bind_error_iff.2 (Or.inr ⟨artifacts, s, ofExcept_ok_iff.2 ⟨generated, rfl⟩, ?_⟩)
    refine bind_error_iff.2 (Or.inr ⟨(), { s with tree }, files_ok_iff.2 ⟨tree, wrote, rfl⟩, ?_⟩)
    exact bind_error_iff.2 (Or.inl compiled)
  rw [ran]

/-- **Settings from variables**: where paths can start with the name of the runtime crate, no build without the compiler
check reports that its code does not compile, whatever its models are. -/
theorem run_accepted {vars : Variables} (accepted : BuildSettings.ofVariables vars = .ok input.settings)
    (off : input.settings.compilerCheck = false) (starts : startsPath input.settings.runtimeCrate = true)
    (compiler : ExternalCompiler) (s : BuildState) (path reason : String) :
    (input.run compiler s).1 ≠ .error (.compilation path reason) := by
  have isRuntime := BuildSettings.identifierOf_crateName (BuildSettings.isCrateName_runtimeCrate accepted)
  rw [← isRuntime] at starts
  exact run_ne_compilation off starts path reason

/-- the hostile process, built for a runtime that the settings name -/
def configuredBuild : BuildInput :=
  { hostileBuild with settings := { crateName := "app", runtimeCrate := "flow_runtime" } }

theorem configuredBuild_accepted :
    BuildSettings.ofVariables (NameMap.ofList [("FLOWCANON_CRATE_NAME", "app"), ("FLOWCANON_RUNTIME_CRATE", "flow_runtime")]) =
      .ok configuredBuild.settings ∧
    ∀ compiler s path reason, (configuredBuild.run compiler s).1 ≠ .error (.compilation path reason) := by
  have accepted : BuildSettings.ofVariables
      (NameMap.ofList [("FLOWCANON_CRATE_NAME", "app"), ("FLOWCANON_RUNTIME_CRATE", "flow_runtime")]) =
        .ok configuredBuild.settings := by decide +kernel
  exact ⟨accepted, @run_accepted configuredBuild _ accepted rfl (by decide)⟩

end BuildInput

end ProcessBuild
