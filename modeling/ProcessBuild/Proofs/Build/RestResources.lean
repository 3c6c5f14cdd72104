/-
The REST resources of a build are those that its gate lets through: one for each model, in a directory that no other file
of a build is in, or none at all.
- `restFiles_of_run`: the files that generation puts into that directory.
- `run_gated`: the gate of a build, and what is made behind it.
-/
import ProcessBuild.Proofs.Build.Stages
import ProcessBuild.Proofs.Environment.RestGate
import ProcessBuild.Proofs.Generation.Walk

namespace ProcessBuild

def Artifact.isRestFile (a : Artifact) : Bool := "rest/".toList.isPrefixOf a.path.toList

namespace Generation

open Source

/-- the REST resource of a process as a file -/
def restFile (runtime : String) (m : ProcessModel) : Artifact :=
  ⟨.source, "rest/" ++ fileStem m.id ++ "_resource.rs", restSource runtime m⟩

theorem isRestFile_restFile (runtime : String) (m : ProcessModel) : (restFile runtime m).isRestFile = true := by
  have path : (restFile runtime m).path.toList = "rest/".toList ++ ((fileStem m.id).toList ++ "_resource.rs".toList) := by
    simp [restFile]
  rw [Artifact.isRestFile, path, List.isPrefixOf_iff_prefix]
  exact List.prefix_append _ _

/-- a file in a directory whose name starts otherwise is no REST resource -/
theorem isRestFile_of_head {a : Artifact} {c : Char} (starts : a.path.toList.head? = some c) (other : c ≠ 'r') :
    a.isRestFile = false := by
  rw [Artifact.isRestFile, ← Bool.not_eq_true, List.isPrefixOf_iff_prefix]
  rintro ⟨rest, whole⟩
  rw [← whole] at starts
  exact other (Option.some.inj starts).symm

theorem restFiles_eq_nil {artifacts : List Artifact} {c : Char} (other : c ≠ 'r')
    (starts : ∀ a ∈ artifacts, a.path.toList.head? = some c) : artifacts.filter Artifact.isRestFile = [] :=
  List.filter_eq_nil_iff.2 fun a isArtifact => Bool.eq_false_iff.1 (isRestFile_of_head (starts a isArtifact) other)

/-- the REST resources among the files after those of processes -/
theorem restFiles_further (input : GenerationInput) (e : Environment) (wantsRest : Bool) (models : List ProcessModel) :
    (furtherArtifacts input e wantsRest models).filter Artifact.isRestFile =
      if wantsRest then models.map (restFile input.runtime) else [] := by
  have events : (models.map fun m => (⟨.source, "events/" ++ fileStem m.id ++ "_events.rs",
      eventsSource input.runtime m⟩ : Artifact)).filter Artifact.isRestFile = [] :=
    restFiles_eq_nil (c := 'e') (by decide) (List.forall_mem_map.2 fun m _ =>
      head?_append_of_some (head?_append_of_some rfl _) _)
  have resources : (models.map (restFile input.runtime)).filter Artifact.isRestFile = models.map (restFile input.runtime) :=
    List.filter_eq_self.2 (List.forall_mem_map.2 fun m _ => isRestFile_restFile input.runtime m)
  have single : ∀ {kind : ArtifactKind} {path content : String}, "rest/".toList.isPrefixOf path.toList = false →
      [(⟨kind, path, content⟩ : Artifact)].filter Artifact.isRestFile = [] := by
    intro kind path content apart
    exact List.filter_eq_nil_iff.2 (List.forall_mem_singleton.2 (Bool.eq_false_iff.1 apart))
  have chosen : ∀ (condition : Bool) {some other : List Artifact}, some.filter Artifact.isRestFile = [] →
      other.filter Artifact.isRestFile = [] → (if condition then some else other).filter Artifact.isRestFile = [] := by
    intro condition some other h k
    split
    · exact h
    · exact k
  unfold furtherArtifacts furtherGroups
  simp only [List.flatten_cons, List.flatten_nil, List.append_nil, List.filter_append]
  rw [events, chosen _ (single (by decide)) List.filter_nil, chosen _ List.filter_nil (single (by decide)),
    single (by decide), single (by decide)]
  simp only [List.nil_append, List.append_nil]
  split
  · exact resources
  · rfl

/-- **The REST resources that are generated**: where they are wanted those of the models, one each, in the order of their
ids and with distinct paths, and none elsewhere. -/
theorem restFiles_of_run {input : GenerationInput} {e : Environment} {wantsRest : Bool} {artifacts : List Artifact}
    (generated : run (discover input.models e wantsRest) input = .ok artifacts) :
    artifacts.filter Artifact.isRestFile =
        (if wantsRest then (modelsById input.models).map (restFile input.runtime) else []) ∧
      (artifacts.map Artifact.path).Nodup := by
  obtain ⟨files, translated, rfl, distinct⟩ := run_discover_ok_iff.1 generated
  have processes : files.filter Artifact.isRestFile = [] := by
    refine restFiles_eq_nil (c := 'p') (by decide) fun a isFile => ?_
    have inPaths := List.mem_map_of_mem (f := Artifact.path) isFile
    rw [paths_processes translated] at inPaths
    obtain ⟨m, -, path⟩ := List.mem_map.1 inPaths
    rw [← path]
    exact head?_append_of_some (head?_append_of_some rfl _) _
  rw [List.filter_append, processes, restFiles_further, List.nil_append]
  exact ⟨rfl, distinct⟩

end Generation

namespace BuildInput

open Generation

/-- what the gate of a build has let through -/
structure Gated (input : BuildInput) (output : BuildOutput) : Prop where
  /-- each model has one REST resource where REST is served -/
  served : input.environment.ServesRest → output.artifacts.filter Artifact.isRestFile =
    (input.models.mergeSort fun m n => m.id ≤ n.id).map (restFile input.generation.runtime)
  unserved : ¬input.environment.ServesRest → output.artifacts.filter Artifact.isRestFile = []
  distinct : (output.artifacts.map Artifact.path).Nodup
  /-- the outcome says the same -/
  said : output.gate.generateRest = true ↔ input.environment.ServesRest
  warned : ∀ words, output.gate.warning = some words ↔ input.environment.ForgoesRest ∧ words = RestGate.plannerWarning

/-- **REST generation follows the gate.** In every build that succeeds, REST resources are made exactly where both REST
capabilities are present and the switch is not off, one for each model, the outcome says so, and it warns exactly where
the switch is not set, there is planning and a REST capability is missing. Adding capabilities to an environment that
passes the gate never ends a build there. -/
theorem run_gated (input : BuildInput) :
    (∀ compiler s t output, input.run compiler s = (.ok output, t) → input.Gated output) ∧
      ∀ capabilities : NameSet, (∀ c ∈ input.environment.capabilities, c ∈ capabilities) →
        RestGate.Passes input.environment → RestGate.Passes { input.environment with capabilities } := by
  refine ⟨fun compiler s t output built => ?_, fun capabilities more => RestGate.Passes.mono more⟩
  have made := makes_of_run built
  have said := RestGate.generateRest_iff made.gate
  obtain ⟨resources, distinct⟩ := @restFiles_of_run input.generation input.environment _ _ made.artifacts
  refine ⟨fun serves => ?_, fun forgoes => ?_, distinct, said, fun words => RestGate.warning_iff made.gate⟩
  · rw [resources, if_pos (said.2 serves)]
    rfl
  · rw [resources, if_neg (mt said.1 forgoes)]

/-- the hostile process, built for planning with both REST capabilities -/
def servedBuild : BuildInput where
  settings := { crateName := "app" }
  models := [hostileProcess]
  environment := { capabilities := NameSet.ofList ["planner-solver", "rest", "rest-json"] }
  closure := {}
  table := ReflectionTable.ofRuntime "flowcanon_runtime"

/-- a build in which REST is forgone, and goes on to be when one REST capability is added -/
def forgoingBuild : BuildInput := { servedBuild with environment := { capabilities := NameSet.ofList ["planner-solver"] } }

theorem servedBuild_gated :
    (∃ output t, servedBuild.run (fun _ => none) ⟨{}, none⟩ = (.ok output, t) ∧ servedBuild.environment.ServesRest ∧
      servedBuild.Gated output) ∧
    (∃ output t, forgoingBuild.run (fun _ => none) ⟨{}, none⟩ = (.ok output, t) ∧
      forgoingBuild.environment.ForgoesRest ∧ forgoingBuild.Gated output) ∧
    RestGate.Passes forgoingBuild.environment ∧
    RestGate.Passes { forgoingBuild.environment with capabilities := NameSet.ofList ["planner-solver", "rest"] } := by
  have serves : RestGate.check servedBuild.environment = .ok (.asConfigured true) := by rfl
  have forgoes : RestGate.check forgoingBuild.environment = .ok (.switchedOff RestGate.plannerWarning) := by rfl
  have servedMakes : servedBuild.canMake (.asConfigured true) {} = true := by decide +kernel
  have forgoingMakes : forgoingBuild.canMake (.switchedOff RestGate.plannerWarning) {} = true := by decide +kernel
  obtain ⟨output, t, built⟩ := run_of_canMake (fun _ => none) rfl (by decide) serves servedMakes (s := ⟨{}, none⟩)
  obtain ⟨other, u, rebuilt⟩ := run_of_canMake (fun _ => none) rfl (by decide) forgoes forgoingMakes (s := ⟨{}, none⟩)
  have more : ∀ c ∈ forgoingBuild.environment.capabilities, c ∈ NameSet.ofList ["planner-solver", "rest"] := by
    intro c present
    have planner : c = "planner-solver" := by simpa using NameSet.mem_ofList.1 present
    exact NameSet.mem_ofList.2 (planner ▸ List.mem_cons_self)
  have passes : RestGate.Passes forgoingBuild.environment := ⟨_, forgoes⟩
  exact ⟨⟨output, t, built, (RestGate.generateRest_iff serves).1 rfl, (run_gated servedBuild).1 _ _ _ _ built⟩,
    ⟨other, u, rebuilt, ((RestGate.warning_iff forgoes).1 rfl).1, (run_gated forgoingBuild).1 _ _ _ _ rebuilt⟩,
    passes, (run_gated forgoingBuild).2 _ more passes⟩

end BuildInput
end ProcessBuild
