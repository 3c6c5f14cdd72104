/-
What the external compiler is led to. A build calls it in the output directory, with paths that start with the output
directory as it is set. A path from the root leads to the same place from everywhere, so with such an output directory the
compiler checks the crate that was written. A relative one is followed twice, once to the directory that the compiler works
in and once from there: unless this leads nowhere further, the compiler looks for the crate where nothing was written.
- `FindsCrate`: a call leads the compiler to the crate below an output directory.
- `findsCrate_iff`: when the call of a build does.
- `checkCall_finds`: the calls of builds, and what the compiler reads.
-/
import ProcessBuild.Proofs.Build.WriteDiscipline

namespace ProcessBuild

open Source Generation Files

/-! ## Calls -/

namespace CompilerCall

def valuedOptions : List String := ["--crate-name", "--out-dir", "-L", "--extern"]

/-- the value of an option; the value of another option is none -/
def optionValue? (option : String) : List String → Option String
  | first :: value :: rest =>
    if first = option then some value
    else if first ∈ valuedOptions then optionValue? option rest
    else optionValue? option (value :: rest)
  | _ => none

/-- the crate root that a call names: its last argument -/
def crateRoot? (call : CompilerCall) : Option String := call.arguments.getLast?

/-- the directory that a call names for what the compiler makes -/
def outDir? (call : CompilerCall) : Option String := optionValue? "--out-dir" call.arguments

/-- the place that a called compiler works in, seen from the place that the build works in -/
def workingPlace (call : CompilerCall) (here : Location) : Location := placeFrom here call.directory

/-- a tree as a called compiler sees it -/
def view (call : CompilerCall) (t : Files.Tree) : Files.Tree := { t with here := call.workingPlace t.here }

/-- a call leads the compiler to the crate in an output directory: seen from where the compiler works, the crate root is
the one that is written below the directory seen from where the build works, and so is the place of what the compiler
makes -/
structure FindsCrate (call : CompilerCall) (outputDir : String) (here : Location) : Prop where
  root : ∃ path, call.crateRoot? = some path ∧
    placeFrom (call.workingPlace here) path = placeFrom here (join outputDir "lib.rs")
  target : ∃ path, call.outDir? = some path ∧
    placeFrom (call.workingPlace here) path = placeFrom here (join outputDir "target")

variable {crateName outputDir : String} {closure : DependencyClosure} {here : Location}

theorem crateRoot?_ofCrate : (ofCrate crateName outputDir closure).crateRoot? = some (join outputDir "lib.rs") :=
  List.getLast?_concat

theorem outDir?_ofCrate : (ofCrate crateName outputDir closure).outDir? = some (join outputDir "target") := by
  simp [outDir?, ofCrate, optionValue?, valuedOptions, targetDir]

/-- **The call of a build leads to its crate** exactly when the output directory, seen from itself, is itself. -/
theorem findsCrate_iff : (ofCrate crateName outputDir closure).FindsCrate outputDir here ↔
    placeFrom (placeFrom here outputDir) outputDir = placeFrom here outputDir := by
  have plainRoot : IsPlain "lib.rs" := by decide
  have plainTarget : IsPlain "target" := by decide
  constructor
  · rintro ⟨⟨path, isRoot, same⟩, -⟩
    obtain rfl := Option.some.inj (crateRoot?_ofCrate.symm.trans isRoot)
    rw [placeFrom_plain plainRoot, placeFrom_plain plainRoot] at same
    exact List.append_cancel_right same
  · intro same
    refine ⟨⟨_, crateRoot?_ofCrate, ?_⟩, ⟨_, outDir?_ofCrate, ?_⟩⟩
    · rw [placeFrom_plain plainRoot, placeFrom_plain plainRoot]
      exact congrArg (· ++ names "lib.rs") same
    · rw [placeFrom_plain plainTarget, placeFrom_plain plainTarget]
      exact congrArg (· ++ names "target") same

/-- a path from the root leads to the same place from everywhere -/
theorem findsCrate_of_rooted (rooted : isRooted outputDir = true) :
    (ofCrate crateName outputDir closure).FindsCrate outputDir here := by
  refine findsCrate_iff.2 ?_
  unfold placeFrom
  rw [if_pos rooted, if_pos rooted]

/-- names are followed further from where they lead -/
theorem not_findsCrate_of_plain (plain : IsPlain outputDir) :
    ¬(ofCrate crateName outputDir closure).FindsCrate outputDir here := by
  intro finds
  have same := findsCrate_iff.1 finds
  rw [placeFrom_names plain, placeFrom_names plain] at same
  have none : names outputDir = [] := List.append_cancel_left (same.trans (List.append_nil _).symm)
  exact names_ne_nil outputDir none

end CompilerCall

/-! ## Stages -/

namespace BuildStage

variable {α β : Type} {call : CompilerCall}

/-- a stage calls the compiler in one way, if at all -/
def Calls (call : CompilerCall) (stage : BuildStage α) : Prop :=
  ∀ s, (stage s).2.call = s.call ∨ (stage s).2.call = some call

theorem Calls.pure (a : α) : Calls call (Pure.pure a : BuildStage α) := fun _ => .inl rfl

theorem Calls.throw (e : BuildError) : Calls call (MonadExcept.throw e : BuildStage α) := fun _ => .inl rfl

theorem Calls.ofExcept (e : Except BuildError α) : Calls call (ofExcept e) := fun _ => .inl rfl

theorem Calls.files (action : Files.Action α) : Calls call (files action) := fun _ => .inl rfl

theorem Calls.bind {first : BuildStage α} {next : α → BuildStage β} (h : Calls call first) (k : ∀ a, Calls call (next a)) :
    Calls call (first >>= next) := by
  refine bind_relates (R := fun (s t : BuildState) => t.call = s.call ∨ t.call = some call) (fun before after => ?_) h k
  rcases after with same | called
  · rcases before with unchanged | calledBefore
    · exact .inl (same.trans unchanged)
    · exact .inr (same.trans calledBefore)
  · exact .inr called

theorem calls_callCompiler (compiler : ExternalCompiler) (call : CompilerCall) :
    Calls call (callCompiler compiler call) := by
  intro s
  unfold callCompiler
  split
  · exact .inl rfl
  · split
    · exact .inl rfl
    · exact .inr rfl

theorem calls_checkArtifacts (compiler : ExternalCompiler) (crateName outputDir : String) (closure : DependencyClosure)
    (artifacts : List Artifact) :
    Calls (CompilerCall.ofCrate crateName outputDir closure)
      (checkArtifacts compiler crateName outputDir closure artifacts) := by
  refine (Calls.ofExcept _).bind fun units => ?_
  split
  · refine (calls_callCompiler compiler _).bind fun answer => ?_
    split
    · exact Calls.pure units
    · exact Calls.throw _
  · exact Calls.pure units

end BuildStage

/-! ## Builds -/

namespace BuildInput

open BuildStage CompilerCall

/-- the call that checks the crate of a build -/
def checkCall (input : BuildInput) : CompilerCall :=
  CompilerCall.ofCrate input.settings.crateName input.settings.outputDir input.closure

theorem calls_run (input : BuildInput) (compiler : ExternalCompiler) : Calls input.checkCall (input.run compiler) := by
  refine (Calls.ofExcept _).bind fun gate => (Calls.ofExcept _).bind fun artifacts => (Calls.files _).bind fun _ => ?_
  have compile : Calls input.checkCall (input.compile compiler artifacts) := by
    unfold BuildInput.compile
    split
    · exact calls_checkArtifacts _ _ _ _ _
    · exact Calls.ofExcept _
  exact compile.bind fun units => (Calls.files _).bind fun _ => Calls.pure _

/-- **A crate root that is written** below a rooted directory is what the compiler reads as the crate root. -/
theorem crateRoot_read {input : BuildInput} {gate : RestGate} {artifacts : List Artifact} {t written : Files.Tree}
    (rooted : isRooted input.settings.outputDir = true) (generated : input.artifacts gate = .ok artifacts)
    (wrote : writeArtifacts input.settings.outputDir artifacts t = (.ok (), written)) :
    ∃ path content, input.checkCall.crateRoot? = some path ∧ ⟨.source, "lib.rs", content⟩ ∈ artifacts ∧
      written.read (join input.settings.outputDir "lib.rs") = .ok content ∧
      (input.checkCall.view written).read path = .ok content := by
  obtain ⟨-, -, held⟩ := kept_of_artifacts generated wrote
  obtain ⟨files, -, rfl, -⟩ := (@run_discover_ok_iff input.generation _ _ _).1 generated
  have isRoot := @crateRoot_mem input.generation input.environment gate.generateRest (modelsById input.models) files
  have read := held _ isRoot
  refine ⟨_, _, crateRoot?_ofCrate, isRoot, read, ?_⟩
  obtain ⟨place, located, text⟩ := Tree.read_ok_iff.1 read
  refine Tree.read_ok_iff.2 ⟨place, ?_, text⟩
  exact (locate_rooted (isRooted_join rooted _) _ _).trans located

/-- **The check looks at the crate that was written** where the output directory is rooted: a build makes no other call,
its arguments lead to the crate root and the target directory below the output directory, and the compiler reads the crate
root as it was written. A relative output directory does not do unless it leads to itself when it is followed again, which
no path of names does. -/
theorem checkCall_finds (input : BuildInput) :
    (∀ compiler s, (input.run compiler s).2.call = s.call ∨ (input.run compiler s).2.call = some input.checkCall) ∧
    (isRooted input.settings.outputDir = true → ∀ here, input.checkCall.FindsCrate input.settings.outputDir here) ∧
    (∀ here, input.checkCall.FindsCrate input.settings.outputDir here ↔
      placeFrom (placeFrom here input.settings.outputDir) input.settings.outputDir =
        placeFrom here input.settings.outputDir) ∧
    (IsPlain input.settings.outputDir → ∀ here, ¬input.checkCall.FindsCrate input.settings.outputDir here) ∧
    ∀ gate artifacts t written, isRooted input.settings.outputDir = true → input.artifacts gate = .ok artifacts →
      writeArtifacts input.settings.outputDir artifacts t = (.ok (), written) →
      ∃ path content, input.checkCall.crateRoot? = some path ∧ ⟨.source, "lib.rs", content⟩ ∈ artifacts ∧
        written.read (join input.settings.outputDir "lib.rs") = .ok content ∧
        (input.checkCall.view written).read path = .ok content := by
  refine ⟨calls_run input, fun rooted here => findsCrate_of_rooted rooted, fun here => findsCrate_iff,
    fun plain here => not_findsCrate_of_plain plain, ?_⟩
  intro gate artifacts t written rooted generated wrote
  exact crateRoot_read rooted generated wrote

/-- the hostile process, built and checked below a rooted directory -/
def rootedBuild : BuildInput :=
  { hostileBuild with settings := { crateName := "app", outputDir := "/out", compilerCheck := true } }

theorem rootedBuild_found :
    (isRooted rootedBuild.settings.outputDir = true ∧ rootedBuild.checkCall.FindsCrate "/out" ["home", "user"]) ∧
    (IsPlain hostileBuild.settings.outputDir ∧
      ¬hostileBuild.checkCall.FindsCrate ".flowcanon/generated" ["home", "user"]) ∧
    ∃ artifacts written path content, rootedBuild.artifacts (.asConfigured false) = .ok artifacts ∧
      writeArtifacts "/out" artifacts {} = (.ok (), written) ∧ rootedBuild.checkCall.crateRoot? = some path ∧
      written.read "/out/lib.rs" = .ok content ∧ (rootedBuild.checkCall.view written).read path = .ok content := by
  have rooted : isRooted rootedBuild.settings.outputDir = true := by decide
  have plain : IsPlain hostileBuild.settings.outputDir := by decide
  have makeable : rootedBuild.canMake (.asConfigured false) {} = true := by decide +kernel
  obtain ⟨artifacts, generated, writable⟩ := artifacts_of_canMake makeable
  obtain ⟨written, last, wrote, -⟩ := writes_of_canWrite writable ""
  obtain ⟨path, content, named, -, read, seen⟩ :=
    (checkCall_finds rootedBuild).2.2.2.2 _ _ _ _ rooted generated wrote
  exact ⟨⟨rooted, (checkCall_finds rootedBuild).2.1 rooted _⟩, ⟨plain, (checkCall_finds hostileBuild).2.2.2.1 plain _⟩,
    artifacts, written, path, content, generated, wrote, named, read, seen⟩

end BuildInput
end ProcessBuild
