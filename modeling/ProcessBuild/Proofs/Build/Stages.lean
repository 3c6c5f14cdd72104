/-
The stages of a build. A build succeeds exactly when all of its stages do; what it has made then is what the generators,
the reading of the sources and the derivation of the allow-list make, whatever was written in between.
- `makes_of_run`: what a successful build has made.
- `run_of_stages`, `run_of_generated`: when a build succeeds.
-/
import ProcessBuild.Build.Run
import ProcessBuild.Proofs.Files.Changes
import ProcessBuild.Proofs.Generation.Declarations

namespace ProcessBuild

namespace BuildStage

variable {α : Type}

theorem ofExcept_ok_iff {e : Except BuildError α} {s t : BuildState} {a : α} :
    ofExcept e s = (.ok a, t) ↔ e = .ok a ∧ s = t := by
  rw [ofExcept, Prod.mk.injEq]

/-- work on the files that succeeds leaves the rest of the state -/
theorem files_ok_iff {action : Files.Action α} {s t : BuildState} {a : α} :
    files action s = (.ok a, t) ↔ ∃ tree, action s.tree = (.ok a, tree) ∧ t = { s with tree } := by
  unfold files
  rcases action s.tree with ⟨fault | b, tree⟩
  · exact ⟨fun h => (nomatch (Prod.mk.inj h).1), fun ⟨_, h, _⟩ => (nomatch (Prod.mk.inj h).1)⟩
  · constructor
    · intro h
      obtain ⟨ok, rfl⟩ := Prod.mk.inj h
      obtain rfl := Except.ok.inj ok
      exact ⟨tree, rfl, rfl⟩
    · rintro ⟨_, h, rfl⟩
      cases h
      rfl

end BuildStage

open BuildStage Generation Source

/-- the sources that a check of the crate comes to are read without it -/
theorem units_of_checkArtifacts {compiler : ExternalCompiler} {crateName outputDir : String}
    {closure : DependencyClosure} {artifacts : List Artifact} {s t : BuildState} {units : List CompiledUnit}
    (h : checkArtifacts compiler crateName outputDir closure artifacts s = (.ok units, t)) :
    CompiledUnit.ofArtifacts crateName artifacts = .ok units := by
  unfold checkArtifacts at h
  obtain ⟨read, r, compiled, h⟩ := bind_ok_iff.1 h
  have same : read = units := by
    split at h
    · obtain ⟨answer, q, -, h⟩ := bind_ok_iff.1 h
      split at h
      · exact (pure_ok_iff.1 h).1
      · cases h
    · exact (pure_ok_iff.1 h).1
  rw [← same]
  exact (ofExcept_ok_iff.1 compiled).1

namespace BuildInput

theorem units_of_compile {input : BuildInput} {compiler : ExternalCompiler} {artifacts : List Artifact}
    {s t : BuildState} {units : List CompiledUnit} (h : input.compile compiler artifacts s = (.ok units, t)) :
    CompiledUnit.ofArtifacts input.settings.crateName artifacts = .ok units := by
  unfold compile at h
  split at h
  · exact units_of_checkArtifacts h
  · exact (ofExcept_ok_iff.1 h).1

/-- what a build has made of its input -/
structure Makes (input : BuildInput) (output : BuildOutput) : Prop where
  gate : RestGate.check input.environment = .ok output.gate
  artifacts : input.artifacts output.gate = .ok output.artifacts
  units : CompiledUnit.ofArtifacts input.settings.crateName output.artifacts = .ok output.units
  index : output.index = input.closure.index.addUnits output.units
  allowList : output.allowList = AllowList.ofIndex output.index input.table input.environment.addons

/-- **A successful build** has made what its stages make. -/
theorem makes_of_run {input : BuildInput} {compiler : ExternalCompiler} {s t : BuildState} {output : BuildOutput}
    (h : input.run compiler s = (.ok output, t)) : input.Makes output := by
  unfold run at h
  obtain ⟨gate, _, checked, h⟩ := bind_ok_iff.1 h
  obtain ⟨artifacts, _, generated, h⟩ := bind_ok_iff.1 h
  obtain ⟨-, _, -, h⟩ := bind_ok_iff.1 h
  obtain ⟨units, _, compiled, h⟩ := bind_ok_iff.1 h
  obtain ⟨-, _, -, h⟩ := bind_ok_iff.1 h
  obtain ⟨rfl, -⟩ := pure_ok_iff.1 h
  have gateChecked : RestGate.check input.environment = .ok gate := mapError_eq_ok_iff.1 (ofExcept_ok_iff.1 checked).1
  exact ⟨gateChecked, (ofExcept_ok_iff.1 generated).1, units_of_compile compiled, rfl, rfl⟩

/-- whether artifacts and an allow-list can be written to the output directory of a build -/
def canWrite (input : BuildInput) (artifacts : List Artifact) (tree : Files.Tree) : Bool :=
  match writeArtifacts input.settings.outputDir artifacts tree with
  | (.ok _, written) => (Files.writeFile (Files.join input.settings.outputDir AllowList.filePath) "" written).1.toBool
  | (.error _, _) => false

/-- what can be written is written, whatever the text of the allow-list is -/
theorem writes_of_canWrite {input : BuildInput} {artifacts : List Artifact} {tree : Files.Tree}
    (writable : input.canWrite artifacts tree = true) (list : String) :
    ∃ written last, writeArtifacts input.settings.outputDir artifacts tree = (.ok (), written) ∧
      Files.writeFile (Files.join input.settings.outputDir AllowList.filePath) list written = (.ok (), last) := by
  unfold canWrite at writable
  rcases written : writeArtifacts input.settings.outputDir artifacts tree with ⟨_ | ⟨⟩, between⟩
  · rw [written] at writable
    cases writable
  · rw [written] at writable
    dsimp only at writable
    rw [Files.writeFile_toBool _ _ list] at writable
    rcases listed : Files.writeFile (Files.join input.settings.outputDir AllowList.filePath) list between with
      ⟨_ | ⟨⟩, last⟩
    · rw [listed] at writable
      cases writable
    · exact ⟨between, last, rfl, listed⟩

/-- **A build succeeds** when its environment is accepted, its models are generated, its sources are read and its files
can be written. -/
theorem run_of_stages {input : BuildInput} {gate : RestGate} {artifacts : List Artifact} {units : List CompiledUnit}
    {s : BuildState} (compiler : ExternalCompiler) (off : input.settings.compilerCheck = false)
    (checked : RestGate.check input.environment = .ok gate) (generated : input.artifacts gate = .ok artifacts)
    (compiled : CompiledUnit.ofArtifacts input.settings.crateName artifacts = .ok units)
    (writable : input.canWrite artifacts s.tree = true) : ∃ output t, input.run compiler s = (.ok output, t) := by
  have gateChecked : (RestGate.check input.environment).mapError BuildError.missingCapability = .ok gate :=
    mapError_eq_ok_iff.2 checked
  let index := input.closure.index.addUnits units
  let allowList := AllowList.ofIndex index input.table input.environment.addons
  let output : BuildOutput := { gate, artifacts, units, index, allowList }
  obtain ⟨written, last, wrote, listed⟩ := writes_of_canWrite writable allowList.fileText
  refine ⟨output, { s with tree := last }, ?_⟩
  unfold run
  refine bind_ok_iff.2 ⟨gate, s, ofExcept_ok_iff.2 ⟨gateChecked, rfl⟩, ?_⟩
  refine bind_ok_iff.2 ⟨artifacts, s, ofExcept_ok_iff.2 ⟨generated, rfl⟩, ?_⟩
  refine bind_ok_iff.2 ⟨(), { s with tree := written }, files_ok_iff.2 ⟨written, wrote, rfl⟩, ?_⟩
  refine bind_ok_iff.2 ⟨units, { s with tree := written }, ?_, ?_⟩
  · rw [compile, off]
    exact ofExcept_ok_iff.2 ⟨compiled, rfl⟩
  · exact bind_ok_iff.2 ⟨(), { s with tree := last }, files_ok_iff.2 ⟨last, listed, rfl⟩, rfl⟩

theorem declares_artifacts {input : BuildInput} {gate : RestGate} {artifacts : List Artifact}
    (free : isFreeWord (identifierOf input.settings.runtimeCrate) = true)
    (generated : input.artifacts gate = .ok artifacts) :
    Declares input.settings.crateName artifacts
      ((discover input.models input.environment gate.generateRest).flatMap (planned input.generation)) := by
  obtain ⟨parts, made, rfl, -⟩ := run_ok_iff.1 generated
  exact @declares_outputs input.generation free _ isDiscovered_discover parts made

/-- **A build succeeds** once its artifacts are generated, where its files can be written and the runtime crate has a name
that sources can use: every generated source is accepted. -/
theorem run_of_generated {input : BuildInput} {gate : RestGate} {artifacts : List Artifact} {s : BuildState}
    (compiler : ExternalCompiler) (off : input.settings.compilerCheck = false)
    (free : isFreeWord (identifierOf input.settings.runtimeCrate) = true)
    (checked : RestGate.check input.environment = .ok gate) (generated : input.artifacts gate = .ok artifacts)
    (writable : input.canWrite artifacts s.tree = true) : ∃ output t, input.run compiler s = (.ok output, t) := by
  obtain ⟨units, compiled, -⟩ := declares_artifacts free generated
  exact run_of_stages compiler off checked generated compiled writable

/-- whether the artifacts of a build behind a gate can be made and written -/
def canMake (input : BuildInput) (gate : RestGate) (tree : Files.Tree) : Bool :=
  match input.artifacts gate with
  | .ok artifacts => input.canWrite artifacts tree
  | .error _ => false

theorem artifacts_of_canMake {input : BuildInput} {gate : RestGate} {tree : Files.Tree}
    (makeable : input.canMake gate tree = true) :
    ∃ artifacts, input.artifacts gate = .ok artifacts ∧ input.canWrite artifacts tree = true := by
  unfold canMake at makeable
  cases generated : input.artifacts gate with
  | error e =>
    rw [generated] at makeable
    cases makeable
  | ok artifacts =>
    rw [generated] at makeable
    exact ⟨artifacts, rfl, makeable⟩

theorem run_of_canMake {input : BuildInput} {gate : RestGate} {s : BuildState} (compiler : ExternalCompiler)
    (off : input.settings.compilerCheck = false)
    (free : isFreeWord (identifierOf input.settings.runtimeCrate) = true)
    (checked : RestGate.check input.environment = .ok gate) (makeable : input.canMake gate s.tree = true) :
    ∃ output t, input.run compiler s = (.ok output, t) := by
  obtain ⟨artifacts, generated, writable⟩ := artifacts_of_canMake makeable
  exact run_of_generated compiler off free checked generated writable

/-- the hostile process, built without REST resources -/
def hostileBuild : BuildInput where
  settings := { crateName := "app" }
  models := [hostileProcess]
  environment := { generateRest := some false }
  closure := {}
  table := ReflectionTable.ofRuntime "flowcanon_runtime"

theorem hostileBuild_runs : ∃ output t, hostileBuild.run (fun _ => none) ⟨{}, none⟩ = (.ok output, t) := by
  have makeable : hostileBuild.canMake (.asConfigured false) {} = true := by decide +kernel
  exact run_of_canMake _ rfl (by decide) rfl makeable

end BuildInput
end ProcessBuild
