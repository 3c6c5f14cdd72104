/-
Builds are reproducible: the order in which models of distinct ids are given changes nothing, neither the artifacts nor
the first of several faults nor what is written.
- `artifacts_of_perm`: the artifacts of a build.
- `run_of_perm`: its whole outcome.
-/
import ProcessBuild.Build.Run
import ProcessBuild.Proofs.Generation.ModelOrder

namespace ProcessBuild.BuildInput

theorem artifacts_of_perm {input : BuildInput} {models : List ProcessModel} (reordered : input.models.Perm models)
    (distinct : (input.models.map (·.id)).Nodup) (gate : RestGate) :
    ({ input with models } : BuildInput).artifacts gate = input.artifacts gate :=
  @Generation.run_discover_of_perm input.generation _ reordered distinct input.environment gate.generateRest

/-- **A build does not depend on the order of its models.** On the same file tree, models of distinct ids in any order
give the same error, or the same gate, artifacts, units, index and allow-list, and leave the same files. -/
theorem run_of_perm {input : BuildInput} {models : List ProcessModel} (reordered : input.models.Perm models)
    (distinct : (input.models.map (·.id)).Nodup) (compiler : ExternalCompiler) (state : BuildState) :
    ({ input with models } : BuildInput).run compiler state = input.run compiler state := by
  unfold run
  simp only [artifacts_of_perm reordered distinct]
  rfl

/-- a process with a work item that names no work -/
def unnamedWork (id : String) : ProcessModel where
  id
  name := none
  packageName := none
  version := none
  nodes := [.activity ⟨1, none, NameMap.empty, none⟩ (.workItem " " NameMap.empty)]
  connections := []
  vars := []
  metadata := NameMap.empty

/-- two processes that cannot be translated, the later id given first -/
def faultyInput : BuildInput where
  settings := {}
  models := [unnamedWork "order", unnamedWork "billing"]
  environment := { generateRest := some false }
  closure := {}
  table := ReflectionTable.ofRuntime "flowcanon_runtime"

theorem faultyInput_reordered : faultyInput.models.Perm [unnamedWork "billing", unnamedWork "order"] ∧
    (faultyInput.models.map (·.id)).Nodup ∧
    ({ faultyInput with models := [unnamedWork "billing", unnamedWork "order"] } : BuildInput).run
        (fun _ => none) ⟨{}, none⟩ =
      faultyInput.run (fun _ => none) ⟨{}, none⟩ := by
  have distinct : (faultyInput.models.map (·.id)).Nodup := by decide
  exact ⟨.swap _ _ [], distinct, run_of_perm (.swap _ _ []) distinct _ _⟩

end ProcessBuild.BuildInput
