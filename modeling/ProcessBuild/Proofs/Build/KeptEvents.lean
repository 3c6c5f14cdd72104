/-
The generated events of a build are kept for reflection. An event file names the runtime crate in its imports, the index
resolves the traits of the events through them, and the table of the runtime has the same traits as closure roots, so
each event type is below a root. The two spell the runtime alike where its name is an identifier as it is: the files
name it by the identifier that is made of it, the table by the name itself.
- `tells_event`: the index of a build tells that event types are structures with the trait of data events.
- `allowList_keeps_events`: the allow-list of a build keeps the event types of every process.
-/
import ProcessBuild.Proofs.Build.Agreement
import ProcessBuild.Proofs.Generation.Facts
import ProcessBuild.Proofs.Reflection.AllowList
import ProcessBuild.Proofs.Translation.Methods

namespace ProcessBuild

open Source Generation Translation Relation

/-! ## Event files -/

/-- the full name of an event type of a process -/
def fullEventName (crateName : String) (m : ProcessModel) (ending : String) : String :=
  crateName ++ "::events_" ++ fileStem m.id ++ "_events::" ++ processTypeName m.id ++ ending

/-- a structure with the trait of data events -/
def TypeInfo.IsEvent (runtime : String) (t : TypeInfo) : Prop :=
  t.kind = some .struct ∧ eventName runtime "DataEvent" ∈ t.interfaces

theorem TypeInfo.isLasting_event (runtime : String) : IsLasting (IsEvent runtime) :=
  isLasting_struct.and (isLasting_interface _)

section Made

variable {input : BuildInput} {output : BuildOutput}

theorem eventsFile_of_makes (made : input.Makes output) {m : ProcessModel} (isModel : m ∈ input.models) :
    ⟨.source, eventsPath m.id, eventsSource input.generation.runtime m⟩ ∈ output.artifacts := by
  obtain ⟨files, -, whole, -⟩ := generated_of_makes made
  rw [whole]
  refine List.mem_append_right _ (List.mem_flatten.2 ⟨_, List.mem_cons_self, ?_⟩)
  exact List.mem_map.2 ⟨m, mem_modelsById.2 isModel, rfl⟩

/-- **The index of a build** tells that event types are structures with the trait of data events. -/
theorem tells_event (made : input.Makes output) (isRuntime : namesType input.generation.runtime = true) {m : ProcessModel}
    (isModel : m ∈ input.models) {e : EventType} (isEvent : e ∈ eventTypes m) :
    output.index.Tells (fullEventName input.settings.crateName m e.ending)
      (TypeInfo.IsEvent input.generation.runtime) := by
  obtain ⟨items, read, u, isUnit, declared⟩ := CompiledUnit.exists_unit made.units (eventsFile_of_makes made isModel)
  have starts := (processFile_of_makes made isModel).1
  have name : IsName input.generation.runtime.toList := isName_identifierOf input.settings.runtimeCrate
  obtain rfl := Except.ok.inj (read.symm.trans (readFile_eventsSource name starts m))
  rw [made.index]
  refine TypeIndex.tells_addUnits (TypeInfo.isLasting_event _) (.inr ⟨u, isUnit, TypeIndex.tells_iff.2 ?_⟩)
  rw [declared, entries_events isRuntime]
  refine ⟨e.info input.generation.runtime, List.mem_map.2 ⟨e, isEvent, Prod.ext ?_ rfl⟩, rfl, ?_⟩
  · rw [modulePath_events]
    exact String.toList_inj.1 (by simp [EventType.typeName, fullEventName])
  · exact NameSet.mem_ofList.2 List.mem_cons_self

end Made

/-! ## Allow-lists -/

/-- an event type is no closure root itself -/
theorem fullEventName_ne_root {crateName runtime : String} {m : ProcessModel} {e : EventType} (h : e ∈ eventTypes m) :
    fullEventName crateName m e.ending ≠ eventName runtime "DataEvent" := by
  have root : mark (eventName runtime "DataEvent") = some 'a' := by
    unfold mark eventName
    rw [String.toList_append, List.reverse_append]
    rfl
  intro same
  rw [← same] at root
  rcases mark_ending h (crateName ++ "::events_" ++ fileStem m.id ++ "_events::" ++ processTypeName m.id) with
    marked | marked
  · cases marked.symm.trans root
  · cases marked.symm.trans root

theorem dataEvent_mem_closureRoots (runtime : String) :
    eventName runtime "DataEvent" ∈ (ReflectionTable.ofRuntime runtime).closureRoots := by
  have name : eventName runtime "DataEvent" = runtime ++ "::event" ++ "::" ++ "DataEvent" :=
    String.toList_inj.1 (by simp [eventName])
  rw [name]
  exact List.mem_cons_self

/-- **The allow-list keeps the events of every process** of a successful build, when the table is the one of the runtime,
the name of the runtime crate is an identifier as it is, and it is none of the words for other places. -/
theorem allowList_keeps_events {input : BuildInput} {compiler : ExternalCompiler} {s t : BuildState}
    {output : BuildOutput} (built : input.run compiler s = (.ok output, t))
    (table : input.table = ReflectionTable.ofRuntime input.settings.runtimeCrate)
    (plain : identifierOf input.settings.runtimeCrate = input.settings.runtimeCrate)
    (elsewhere : input.settings.runtimeCrate ∉ ["crate", "self", "super"]) {m : ProcessModel}
    (isModel : m ∈ input.models) :
    fullEventName input.settings.crateName m "InstanceEvent" ∈ output.allowList.names ∧
      (.humanTask ∈ nodesKinds m.nodes →
        fullEventName input.settings.crateName m "UserTaskEvent" ∈ output.allowList.names) ∧
      (modelVariables m ≠ [] →
        fullEventName input.settings.crateName m "VariableEvent" ∈ output.allowList.names) := by
  have made := BuildInput.makes_of_run built
  -- the one place where both spellings of the runtime meet
  have runtime : input.generation.runtime = input.settings.runtimeCrate := plain
  have isRuntime : namesType input.generation.runtime = true := by
    rw [← runtime] at elsewhere
    exact namesType_of_isName (isName_identifierOf input.settings.runtimeCrate) elsewhere
  have kept : ∀ e ∈ eventTypes m, fullEventName input.settings.crateName m e.ending ∈ output.allowList.names := by
    intro e isEvent
    obtain ⟨info, known, isStruct, isInterface⟩ := tells_event made isRuntime isModel isEvent
    rw [made.allowList, AllowList.mem_names_ofIndex, table]
    rw [runtime] at isInterface
    refine .inr (.inr ⟨_, dataEvent_mem_closureRoots _, fullEventName_ne_root isEvent, ⟨info, known, .inl isStruct⟩, ?_⟩)
    exact TransGen.single ⟨info, known, .inr isInterface⟩
  refine ⟨kept instanceEvent List.mem_cons_self, fun tasks => kept userTaskEvent ?_, fun vars => kept variableEvent ?_⟩
  · rw [eventTypes, if_pos ((hasHumanTasks_iff m).2 tasks)]
    exact List.mem_cons_of_mem _ List.mem_cons_self
  · rw [eventTypes, if_pos ((hasVariables_iff m).2 vars)]
    exact List.mem_append_right _ List.mem_cons_self

theorem hostileBuild_keeps_events : ∃ output t,
    BuildInput.hostileBuild.run (fun _ => none) ⟨{}, none⟩ = (.ok output, t) ∧
      BuildInput.hostileBuild.table = ReflectionTable.ofRuntime "flowcanon_runtime" ∧
      identifierOf "flowcanon_runtime" = "flowcanon_runtime" ∧ "flowcanon_runtime" ∉ ["crate", "self", "super"] ∧
      hostileProcess ∈ BuildInput.hostileBuild.models ∧ .humanTask ∈ nodesKinds hostileProcess.nodes ∧
      modelVariables hostileProcess ≠ [] ∧
      fullEventName "app" hostileProcess "InstanceEvent" ∈ output.allowList.names ∧
      fullEventName "app" hostileProcess "UserTaskEvent" ∈ output.allowList.names ∧
      fullEventName "app" hostileProcess "VariableEvent" ∈ output.allowList.names := by
  obtain ⟨output, t, built⟩ := BuildInput.hostileBuild_runs
  have plain : identifierOf "flowcanon_runtime" = "flowcanon_runtime" := by decide
  have elsewhere : "flowcanon_runtime" ∉ ["crate", "self", "super"] := by decide
  have isModel : hostileProcess ∈ BuildInput.hostileBuild.models := List.mem_cons_self
  have tasks : .humanTask ∈ nodesKinds hostileProcess.nodes := by decide
  have vars : modelVariables hostileProcess ≠ [] := by decide
  obtain ⟨atInstance, atTask, atVariable⟩ := allowList_keeps_events built rfl plain elsewhere isModel
  exact ⟨output, t, built, rfl, plain, elsewhere, isModel, tasks, vars, atInstance, atTask tasks, atVariable vars⟩

end ProcessBuild
