/-
What a generated crate declares. Every source file that the generators of a build make is accepted as source text, and
declares the types that are planned for it and no others: no text of a model ends a literal, a comment or a name early.
- `plannedFiles`: the files of a build with the types that are planned for them, `planned` those of one generator.
- `run_declares`: the files of a build declare the planned types.
-/
import ProcessBuild.Build.Unit
import ProcessBuild.Generation.Generator
import ProcessBuild.Proofs.Generation.Facts
import ProcessBuild.Proofs.Generation.Walk
import ProcessBuild.Proofs.Translation.Methods

namespace ProcessBuild.Generation

open Source

/-! ## Plan -/

/-- an event type of a process with the envelope of the runtime below which it stands -/
def plannedEvent (crateName runtime id ending envelope : String) : String × TypeInfo :=
  (crateName ++ "::events_" ++ fileStem id ++ "_events::" ++ processTypeName id ++ ending,
    .ofStruct (some (runtime ++ "::event::" ++ envelope))
      [runtime ++ "::event::DataEvent", runtime ++ "::event::ProcessDataEvent"])

/-- the types planned for the event file of a process: one for its instances, one where it has a human task at any depth
and one where a scope of it declares a variable -/
def plannedEvents (crateName runtime : String) (m : ProcessModel) : List (String × TypeInfo) :=
  let event := plannedEvent crateName runtime m.id
  [event "InstanceEvent" "ProcessInstanceDataEvent"] ++
    (if .humanTask ∈ Translation.nodesKinds m.nodes then [event "UserTaskEvent" "UserTaskInstanceDataEvent"] else []) ++
    (if Translation.modelVariables m ≠ [] then [event "VariableEvent" "VariableInstanceDataEvent"] else [])

def plannedProcess (crateName runtime id : String) : String × List (String × TypeInfo) :=
  ("processes/" ++ fileStem id ++ ".rs", [
    (crateName ++ "::processes_" ++ fileStem id ++ "::" ++ processTypeName id,
      .ofStruct none [runtime ++ "::prelude::ProcessScope"])])

/-- the resource file of a process with its type -/
def plannedRest (crateName runtime id : String) : String × List (String × TypeInfo) :=
  ("rest/" ++ fileStem id ++ "_resource.rs", [
    (crateName ++ "::rest_" ++ fileStem id ++ "_resource::" ++ processTypeName id ++ "Resource",
      .ofStruct none [runtime ++ "::rest::RestResource"])])

/-- the file of the messaging hook with its type -/
def plannedMessaging (crateName runtime : String) : String × List (String × TypeInfo) :=
  ("messaging/initializer.rs", [
    (crateName ++ "::messaging_initializer::CloudEventExtensionInitializer", .ofStruct none [runtime ++ "::startup::Startup"])])

/-- the file of the marker for hot reload with its type -/
def plannedHotReload (crateName : String) : String × List (String × TypeInfo) :=
  ("hot_reload_support.rs", [(crateName ++ "::hot_reload_support::HotReloadSupport", .ofStruct none [])])

/-- the source files of a build of models, each with the types that are planned for it -/
def plannedFiles (crateName runtime : String) (e : Environment) (wantsRest : Bool) (models : List ProcessModel) :
    List (String × List (String × TypeInfo)) :=
  models.map (fun m => plannedProcess crateName runtime m.id) ++
    models.map (fun m => ("events/" ++ fileStem m.id ++ "_events.rs", plannedEvents crateName runtime m)) ++
    (if wantsRest then models.map fun m => plannedRest crateName runtime m.id else []) ++
    (if e.capabilities.contains "messaging" then [plannedMessaging crateName runtime] else []) ++
    (if e.liveReload then [] else [plannedHotReload crateName]) ++
    [("lib.rs", [])]

/-- the files that a generator makes source of, each with the types that are planned for it -/
def planned (input : GenerationInput) : Generator → List (String × List (String × TypeInfo))
  | .process id => [plannedProcess input.crateName input.runtime id]
  | .events id => (input.model? id).toList.map fun m =>
    ("events/" ++ fileStem id ++ "_events.rs", plannedEvents input.crateName input.runtime m)
  | .rest id => [plannedRest input.crateName input.runtime id]
  | .messaging => [plannedMessaging input.crateName input.runtime]
  | .hotReload => [plannedHotReload input.crateName]
  | .crateRoot _ _ => [("lib.rs", [])]
  | .manifest => []
  | .given _ _ => []

theorem eventTypes_eq (m : ProcessModel) : eventTypes m = [instanceEvent] ++
    (if .humanTask ∈ Translation.nodesKinds m.nodes then [userTaskEvent] else []) ++
    (if Translation.modelVariables m ≠ [] then [variableEvent] else []) := by
  simp only [eventTypes, Translation.hasHumanTasks_iff, Translation.hasVariables_iff]
  rfl

/-! ## Compiled artifacts -/

/-- artifacts that are compiled, and the types that each source file among them declares -/
def Declares (crateName : String) (artifacts : List Artifact) (plan : List (String × List (String × TypeInfo))) : Prop :=
  ∃ units, CompiledUnit.ofArtifacts crateName artifacts = .ok units ∧
    units.map (fun u => (u.path, u.declarations.types.entries)) = plan

theorem Declares.nil (crateName : String) : Declares crateName [] [] := ⟨[], rfl, rfl⟩

theorem Declares.append {crateName : String} {front back : List Artifact}
    {plan more : List (String × List (String × TypeInfo))} (h : Declares crateName front plan)
    (k : Declares crateName back more) : Declares crateName (front ++ back) (plan ++ more) := by
  obtain ⟨units, compiled, rfl⟩ := h
  obtain ⟨others, compiledOthers, rfl⟩ := k
  refine ⟨units ++ others, ?_, List.map_append⟩
  unfold CompiledUnit.ofArtifacts at compiled compiledOthers ⊢
  rw [List.filter_append, List.mapM_append, compiled, compiledOthers]
  rfl

theorem declares_source {crateName path content : String} {items : List Item} {entries : List (String × TypeInfo)}
    (read : readFile content = .ok items)
    (declared : (TypeIndex.ofItems crateName (modulePath crateName path) items).types.entries = entries) :
    Declares crateName [⟨.source, path, content⟩] [(path, entries)] := by
  subst declared
  refine ⟨[⟨path, modulePath crateName path, Sha256.digestOf content,
    TypeIndex.ofItems crateName (modulePath crateName path) items⟩], ?_, rfl⟩
  show List.mapM _ [_] = _
  rw [List.mapM_cons, List.mapM_nil, CompiledUnit.ofArtifact, read]
  rfl

/-! ## Generators -/

variable {crateName runtime : String}

/-- **The file of a process** declares its type. -/
theorem declares_process {content runtimeCrate : String} {m : ProcessModel} {kinds : Translation.Kinds}
    (free : isFreeWord (identifierOf runtimeCrate) = true)
    (h : Translation.compileText m kinds runtimeCrate = .ok content) :
    Declares crateName [⟨.source, processPath m.id, content⟩]
      [plannedProcess crateName (identifierOf runtimeCrate) m.id] := by
  have isRuntime : Identifier (identifierOf runtimeCrate) := ⟨isName_identifierOf runtimeCrate, free⟩
  have entries := @entries_process crateName (modulePath crateName (processPath m.id)) _
    (namesType_of_identifier isRuntime) m.id
  have read := Translation.readFile_compileText h
  rw [if_pos (Grammar.startsBranch_free free)] at read
  refine declares_source read (entries.trans ?_)
  rw [modulePath_process]

/-- what an event file tells of its events is what is planned for it -/
theorem map_eventTypes (crateName runtime : String) (m : ProcessModel) :
    (eventTypes m).map (fun e => (modulePath crateName (eventsPath m.id) ++ "::" ++ e.typeName m.id, e.info runtime)) =
      plannedEvents crateName runtime m := by
  have event : ∀ e : EventType, (modulePath crateName (eventsPath m.id) ++ "::" ++ e.typeName m.id, e.info runtime) =
      plannedEvent crateName runtime m.id e.ending e.envelope := by
    intro e
    have dataEvent : eventName runtime "DataEvent" = runtime ++ "::event::DataEvent" := String.append_assoc
    have processDataEvent : eventName runtime "ProcessDataEvent" = runtime ++ "::event::ProcessDataEvent" :=
      String.append_assoc
    rw [EventType.info, dataEvent, processDataEvent, modulePath_events]
    exact Prod.ext (String.toList_inj.1 (by simp [EventType.typeName, plannedEvent])) rfl
  rw [List.map_congr_left fun e _ => event e, eventTypes_eq]
  simp only [List.map_append, apply_ite (List.map _), List.map_cons, List.map_nil]
  rfl

/-- **An event file** declares its event types. -/
theorem declares_events (isRuntime : Identifier runtime) (m : ProcessModel) :
    Declares crateName [⟨.source, eventsPath m.id, eventsSource runtime m⟩]
      [("events/" ++ fileStem m.id ++ "_events.rs", plannedEvents crateName runtime m)] := by
  have type := namesType_of_identifier isRuntime
  have starts := Grammar.startsBranch_free isRuntime.free
  exact declares_source (readFile_eventsSource isRuntime.name starts m)
    ((entries_events type m).trans (map_eventTypes crateName runtime m))

/-- **A resource file** declares the type of the resource. -/
theorem declares_rest (isRuntime : Identifier runtime) (m : ProcessModel) :
    Declares crateName [⟨.source, restPath m.id, restSource runtime m⟩] [plannedRest crateName runtime m.id] := by
  have type := namesType_of_identifier isRuntime
  have starts := Grammar.startsBranch_free isRuntime.free
  refine declares_source (readFile_restSource isRuntime.name starts m) ((entries_rest type m).trans ?_)
  rw [modulePath_rest]
  exact congrArg (fun name => [(name, _)]) (String.toList_inj.1 (by simp [resourceName]))

/-- **The hook** declares its type. -/
theorem declares_messaging (isRuntime : Identifier runtime) :
    Declares crateName [⟨.source, messagingPath, messagingSource runtime⟩] [plannedMessaging crateName runtime] := by
  have type := namesType_of_identifier isRuntime
  have starts := Grammar.startsBranch_free isRuntime.free
  refine declares_source (readFile_messagingSource isRuntime.name starts) ((entries_messaging type).trans ?_)
  rw [modulePath_messaging]
  exact congrArg (fun name => [(name, _)]) (String.toList_inj.1 (by simp [hookName]))

/-- **The marker for hot reload** declares its type. -/
theorem declares_hotReload (models : List ProcessModel) :
    Declares crateName [⟨.source, hotReloadPath, hotReloadSource models⟩] [plannedHotReload crateName] := by
  refine declares_source (readFile_hotReload models) (entries_hotReload.trans ?_)
  rw [modulePath_hotReload, String.append_assoc]
  rfl

/-- **The crate root** declares no types. -/
theorem declares_crateRoot (isRuntime : Identifier runtime) {modules : List (String × String)}
    (named : ∀ m ∈ modules, Identifier m.2) (ids : List String) :
    Declares crateName [⟨.source, crateRoot, text (crateRootTokens runtime modules ids)⟩] [("lib.rs", [])] :=
  declares_source (readFile_crateRoot isRuntime.name (Grammar.startsPath_free isRuntime.free) named ids)
    (entries_crateRoot modules)

/-- artifacts that are no source declare nothing -/
theorem declares_resource (path content : String) : Declares crateName [⟨.resource, path, content⟩] [] :=
  ⟨[], rfl, rfl⟩

/-! ## Builds -/

/-- the generators that a build can have: those of its models, and a crate root with the modules of some of them -/
def IsDiscovered (input : GenerationInput) : Generator → Prop
  | .process id => (input.model? id).isSome
  | .events id => (input.model? id).isSome
  | .rest id => (input.model? id).isSome
  | .crateRoot sources _ => ∀ path ∈ sources, ∃ name, moduleName path = some name ∧ Identifier name
  | .given _ _ => False
  | _ => True

theorem model?_of_isSome {input : GenerationInput} {id : String} (h : (input.model? id).isSome) :
    ∃ m, input.model? id = some m ∧ m.id = id := by
  obtain ⟨m, found⟩ := Option.isSome_iff_exists.1 h
  exact ⟨m, found, GenerationInput.id_of_model? found⟩

theorem isDiscovered_discover {input : GenerationInput} {e : Environment} {wantsRest : Bool} :
    ∀ g ∈ discover input.models e wantsRest, IsDiscovered input g := by
  have ofIds : ∀ generator : String → Generator, (∀ id, (input.model? id).isSome → IsDiscovered input (generator id)) →
      ∀ g ∈ (sortedIds input.models).map generator, IsDiscovered input g := by
    intro generator known
    refine List.forall_mem_map.2 fun id isId => known id ?_
    obtain ⟨m, isModel, rfl⟩ := mem_sortedIds.1 isId
    exact Option.isSome_iff_exists.2 (GenerationInput.exists_model? isModel)
  have nothing : ∀ g ∈ ([] : List Generator), IsDiscovered input g := List.forall_mem_nil _
  unfold discover
  simp only [List.forall_mem_append]
  refine ⟨⟨⟨⟨⟨ofIds .process fun _ => id, ofIds .events fun _ => id⟩, ?_⟩, ?_⟩, ?_⟩, ?_⟩
  · split
    · exact ofIds .rest fun _ => id
    · exact nothing
  · split
    · exact List.forall_mem_singleton.2 trivial
    · exact nothing
  · split
    · exact nothing
    · exact List.forall_mem_singleton.2 trivial
  · exact List.forall_mem_cons.2 ⟨moduleSources_named _, List.forall_mem_singleton.2 trivial⟩

theorem declares_output {input : GenerationInput} (free : isFreeWord input.runtime = true) {g : Generator}
    (discovered : IsDiscovered input g) {artifacts : List Artifact} (made : g.output input = .ok artifacts) :
    Declares input.crateName artifacts (planned input g) := by
  have isRuntime : Identifier input.runtime := ⟨isName_identifierOf input.runtimeCrate, free⟩
  -- the generators of a model look it up by its id
  cases g with
  | process id =>
    obtain ⟨m, found, rfl⟩ := model?_of_isSome discovered
    obtain ⟨content, compiled, rfl⟩ := (ofModel_ok_iff found).1 made
    exact declares_process free (mapError_eq_ok_iff.1 compiled)
  | events id =>
    obtain ⟨m, found, rfl⟩ := model?_of_isSome discovered
    obtain ⟨_, rendered, rfl⟩ := (ofModel_ok_iff found).1 made
    obtain rfl := Except.ok.inj rendered
    have plan : planned input (.events m.id) =
        [("events/" ++ fileStem m.id ++ "_events.rs", plannedEvents input.crateName input.runtime m)] := by
      rw [planned, found]
      rfl
    rw [plan]
    exact declares_events isRuntime m
  | rest id =>
    obtain ⟨m, found, rfl⟩ := model?_of_isSome discovered
    obtain ⟨_, rendered, rfl⟩ := (ofModel_ok_iff found).1 made
    obtain rfl := Except.ok.inj rendered
    exact declares_rest isRuntime m
  | messaging =>
    obtain rfl := Except.ok.inj made
    exact declares_messaging isRuntime
  | hotReload =>
    obtain rfl := Except.ok.inj made
    exact declares_hotReload input.models
  | crateRoot sources ids =>
    obtain ⟨_, rendered, rfl⟩ := map_eq_ok_iff.1 made
    obtain rfl := Except.ok.inj ((crateRootSource_eq discovered ids).symm.trans rendered)
    exact declares_crateRoot isRuntime (identifier_crateModules discovered) ids
  | manifest =>
    obtain rfl := Except.ok.inj made
    exact declares_resource _ _
  | given name artifacts => exact discovered.elim

theorem declares_outputs {input : GenerationInput} (free : isFreeWord input.runtime = true) {generators : List Generator}
    (discovered : ∀ g ∈ generators, IsDiscovered input g) {parts : List (List Artifact)}
    (made : generators.map (·.output input) = parts.map .ok) :
    Declares input.crateName parts.flatten (generators.flatMap (planned input)) := by
  induction generators generalizing parts with
  | nil =>
    rw [List.map_eq_nil_iff.1 made.symm]
    exact Declares.nil _
  | cons g rest ih =>
    obtain ⟨first, others, rfl, head, tail⟩ := List.map_eq_cons_iff.1 made.symm
    exact (declares_output free (discovered g List.mem_cons_self) head.symm).append
      (ih (fun g hg => discovered g (List.mem_cons_of_mem _ hg)) tail.symm)

theorem flatMap_planned {input : GenerationInput} (distinct : (input.models.map (·.id)).Nodup)
    (generator : String → Generator) {file : ProcessModel → String × List (String × TypeInfo)}
    (h : ∀ m, input.model? m.id = some m → planned input (generator m.id) = [file m]) :
    ((sortedIds input.models).map generator).flatMap (planned input) = (modelsById input.models).map file := by
  rw [sortedIds_eq, List.map_map, List.flatMap_map, List.map_eq_flatMap]
  refine List.flatMap_congr fun m isModel => h m ?_
  exact (GenerationInput.model?_eq_some_iff distinct).2 ⟨mem_modelsById.1 isModel, rfl⟩

/-- **The files planned for the generators of a build** are those planned for its models in the order of their ids. -/
theorem planned_discover {input : GenerationInput} (distinct : (input.models.map (·.id)).Nodup) (e : Environment)
    (wantsRest : Bool) : (discover input.models e wantsRest).flatMap (planned input) =
      plannedFiles input.crateName input.runtime e wantsRest (modelsById input.models) := by
  have processes := flatMap_planned distinct .process fun _ _ => rfl
  have rest := flatMap_planned distinct .rest fun _ _ => rfl
  have eventsOf : ∀ m, input.model? m.id = some m → planned input (.events m.id) =
      [("events/" ++ fileStem m.id ++ "_events.rs", plannedEvents input.crateName input.runtime m)] := by
    intro m found
    rw [planned, found]
    rfl
  have events := flatMap_planned distinct .events eventsOf
  unfold discover plannedFiles
  simp only [List.flatMap_append, processes, events]
  refine congrArg₂ _ (congrArg₂ _ (congrArg₂ _ (congrArg₂ _ rfl ?_) ?_) ?_) rfl
  · cases wantsRest with
    | false => rfl
    | true => exact rest
  · show List.flatMap _ (if e.capabilities.contains "messaging" then _ else _) = _
    cases e.capabilities.contains "messaging" with
    | false => rfl
    | true => rfl
  · cases e.liveReload with
    | false => rfl
    | true => rfl

/-- **The files of a build declare the planned types**: when the generators of a build succeed, every source file is
accepted, and the types that it tells of are those planned for it, whatever the texts of the models are. The files are
those planned for the models in the order of their ids. -/
theorem run_declares {input : GenerationInput} {e : Environment} {wantsRest : Bool} {artifacts : List Artifact}
    (free : isFreeWord (identifierOf input.runtimeCrate) = true)
    (generated : run (discover input.models e wantsRest) input = .ok artifacts) :
    ∃ models, models.Perm input.models ∧ (models.map (·.id)).Pairwise (· < ·) ∧
      Declares input.crateName artifacts
        (plannedFiles input.crateName (identifierOf input.runtimeCrate) e wantsRest models) := by
  have ascending := ascending_of_run generated
  have distinct : (input.models.map (·.id)).Nodup :=
    ((modelsById_perm input.models).map _).nodup_iff.1 (ascending.imp String.ne_of_lt)
  obtain ⟨parts, made, rfl, -⟩ := run_ok_iff.1 generated
  refine ⟨modelsById input.models, modelsById_perm input.models, ascending, ?_⟩
  have declared := declares_outputs free isDiscovered_discover made
  rwa [planned_discover distinct] at declared

/-- a process whose texts end literals, comments and blocks wherever they are not escaped -/
def hostileProcess : ProcessModel where
  id := "a\"; */ \n\x7dpub struct Evil;/*"
  name := some "\"); pub enum Evil \x7b\x7d //"
  packageName := none
  version := none
  nodes := [.activity ⟨1, none, NameMap.empty, none⟩ (.humanTask "\\\"" none none)]
  connections := []
  vars := [⟨"\r\n\"", "String", none⟩]
  metadata := NameMap.empty

/-- the hostile process alone, for a runtime crate whose name has to be made an identifier -/
def hostileInput : GenerationInput := ⟨[hostileProcess], Translation.Kinds.full, "app", "flow-runtime"⟩

theorem hostileInput_declares : ∃ artifacts models, isFreeWord (identifierOf "flow-runtime") = true ∧
    run (discover [hostileProcess] {} true) hostileInput = .ok artifacts ∧ models.Perm [hostileProcess] ∧
    (models.map (·.id)).Pairwise (· < ·) ∧
    Declares "app" artifacts (plannedFiles "app" (identifierOf "flow-runtime") {} true models) := by
  have free : isFreeWord (identifierOf "flow-runtime") = true := by decide
  have generated : (run (discover [hostileProcess] {} true) hostileInput).toBool = true := by decide +kernel
  cases made : run (discover [hostileProcess] {} true) hostileInput with
  | error e =>
    rw [made] at generated
    cases generated
  | ok artifacts =>
    obtain ⟨models, reordered, ascending, declared⟩ := @run_declares hostileInput {} true artifacts free made
    exact ⟨artifacts, models, free, rfl, reordered, ascending, declared⟩

end ProcessBuild.Generation
