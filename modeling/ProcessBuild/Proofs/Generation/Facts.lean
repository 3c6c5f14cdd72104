/-
What the generated files tell of types. Each file is read as imports and declarations; the imports give the traits and
envelopes their full names below the runtime crate, and the declarations give the types of the file theirs below the
module that the file becomes.
- `entries_process`, `entries_events`, `entries_rest`, `entries_messaging`, `entries_hotReload`, `entries_crateRoot`:
  the types that the items of each file tell of, with their edges.
-/
import ProcessBuild.Proofs.Generation.CrateRoot
import ProcessBuild.Proofs.Generation.Events
import ProcessBuild.Proofs.Generation.Messaging
import ProcessBuild.Proofs.Generation.Rest
import ProcessBuild.Proofs.Source.Scope
import ProcessBuild.Proofs.TypeIndex.Facts

namespace ProcessBuild

open Source

/-- what is known of a structure with its edges -/
def TypeInfo.ofStruct (supertype : Option String) (interfaces : List String) : TypeInfo :=
  { kind := some .struct, supertype, interfaces := NameSet.ofList interfaces }

namespace Source

/-! ## Structures -/

/-- a structure and its implementations tell of one type -/
theorem factsOfAll_structure {scope : Scope} {name full : String} (impls : List (Item × TypeInfo))
    (isLocal : scope.localName name = full) (h : ∀ x ∈ impls, x.1.facts scope = [(full, x.2)]) :
    factsOfAll scope (.struct name :: impls.map Prod.fst) =
      TypeIndex.TypeFacts.facts ⟨full, .declared .struct, impls.map Prod.snd⟩ := by
  have others : factsOfAll scope (impls.map Prod.fst) = (impls.map Prod.snd).map fun info => (full, info) := by
    induction impls with
    | nil => rfl
    | cons x impls ih =>
      rw [List.map_cons, factsOfAll, h x List.mem_cons_self, ih fun y hy => h y (List.mem_cons_of_mem x hy)]
      rfl
  rw [factsOfAll, others, Item.facts, isLocal]
  rfl

/-- a file of one structure among items that tell of no types -/
theorem entries_structure {crateName modulePath name : String} {items : List Item} (front back : List Item)
    (impls : List (Item × TypeInfo)) (whole : items = front ++ (.struct name :: impls.map Prod.fst) ++ back)
    (silentFront : ∀ item ∈ front, item.IsSilent) (silentBack : ∀ item ∈ back, item.IsSilent)
    (h : ∀ x ∈ impls, x.1.facts (Scope.ofItems crateName modulePath items) = [(modulePath ++ "::" ++ name, x.2)]) :
    (TypeIndex.ofItems crateName modulePath items).types.entries =
      [(modulePath ++ "::" ++ name, (TypeInfo.declared .struct).mergeAll (impls.map Prod.snd))] := by
  have facts := factsOfAll_structure impls Scope.localName_ofItems h
  have all : factsOfAll (Scope.ofItems crateName modulePath items) items =
      [TypeIndex.TypeFacts.mk (modulePath ++ "::" ++ name) (.declared .struct) (impls.map Prod.snd)].flatMap
        TypeIndex.TypeFacts.facts := by
    generalize Scope.ofItems crateName modulePath items = scope at facts
    rw [whole, factsOfAll_append, factsOfAll_append, factsOfAll_silent silentFront, factsOfAll_silent silentBack, facts,
      List.nil_append]
    rfl
  unfold TypeIndex.ofItems
  rw [all, TypeIndex.entries_ofFacts (List.pairwise_singleton _ _)]
  rfl

/-- the names of the traits that lead to other types have an ending of their own -/
theorem not_isDeref {name : String} (h : name.toList.getLast? ≠ some 'f') : ¬IsDeref name := by
  rintro (rfl | rfl)
  · exact h rfl
  · exact h rfl

theorem joinSegments_three (crate module type : String) :
    joinSegments [crate, module, type] = crate ++ ("::" ++ module ++ "::") ++ type := by
  show crate ++ "::" ++ module ++ "::" ++ type = _
  simp only [String.append_assoc]

theorem getLast?_processTypeName (id : String) : (processTypeName id).toList.getLast? = some 's' := by
  obtain ⟨front, e, -, -⟩ := processTypeName_eq id
  rw [e, String.toList_ofList, List.getLast?_append]
  rfl

theorem ne_processTypeName {w : String} (other : w.toList.getLast? ≠ some 's') (id : String) :
    w ≠ processTypeName id := by
  intro e
  rw [e, getLast?_processTypeName] at other
  exact other rfl

end Source

namespace Generation

open Translation (processItems)

variable {crateName modulePath runtime : String}

/-! ## Process files -/

/-- **The file of a process** tells of its type, which is a process scope. -/
theorem entries_process (isRuntime : namesType runtime = true) (id : String) :
    (TypeIndex.ofItems crateName modulePath (processItems runtime id)).types.entries =
      [(modulePath ++ "::" ++ processTypeName id, .ofStruct none [runtime ++ "::prelude::ProcessScope"])] := by
  have type := namesType_of_identifier (identifier_processTypeName id)
  have scopeNotType : "ProcessScope" ≠ processTypeName id := ne_processTypeName (by decide) id
  have self : (Scope.ofItems crateName modulePath (processItems runtime id)).resolve ⟨false, [processTypeName id]⟩ =
      modulePath ++ "::" ++ processTypeName id :=
    Scope.resolve_declared type List.mem_cons_self
  have trait : (Scope.ofItems crateName modulePath (processItems runtime id)).resolve ⟨false, ["ProcessScope"]⟩ =
      runtime ++ "::prelude::ProcessScope" := by
    refine (Scope.resolve_everything [runtime, "prelude"] (by decide) ?_ ?_ rfl).trans ?_
    · exact fun h => scopeNotType (List.mem_singleton.1 h)
    · intro others h
      simp [processItems, Item.imports, UseTree.imports] at h
    · rw [Scope.absolute_crate isRuntime]
      show runtime ++ "::" ++ "prelude" ++ "::" ++ "ProcessScope" = _
      simp only [String.append_assoc]
      rfl
  refine entries_structure [.use false (.path runtime (.path "prelude" .glob))] [.other]
    [(.impl ⟨false, ⟨false, ["ProcessScope"]⟩, some ⟨false, [processTypeName id]⟩, []⟩,
      { interfaces := NameSet.empty.insert (runtime ++ "::prelude::ProcessScope") })] rfl ?_ ?_ ?_
  · exact List.forall_mem_singleton.2 (isSilent_use _ _)
  · exact List.forall_mem_singleton.2 isSilent_other
  · exact List.forall_mem_singleton.2 (facts_interface self trait (not_isDeref (by simp)))

/-! ## Event files -/

/-- a character that tells the types of an event file from the names that it imports -/
def mark (name : String) : Option Char := name.toList.reverse[5]?

theorem mark_ending {m : ProcessModel} {e : EventType} (h : e ∈ eventTypes m) (front : String) :
    mark (front ++ e.ending) = some 'e' ∨ mark (front ++ e.ending) = some 'k' := by
  have ending : ∀ e ∈ [instanceEvent, userTaskEvent, variableEvent], ∃ a b c d f g rest,
      e.ending.toList.reverse = a :: b :: c :: d :: f :: g :: rest ∧ (g = 'e' ∨ g = 'k') :=
    List.forall_mem_cons.2 ⟨⟨'t', 'n', 'e', 'v', 'E', 'e', _, rfl, .inl rfl⟩, List.forall_mem_cons.2
      ⟨⟨'t', 'n', 'e', 'v', 'E', 'k', _, rfl, .inr rfl⟩, List.forall_mem_singleton.2
        ⟨'t', 'n', 'e', 'v', 'E', 'e', _, rfl, .inl rfl⟩⟩⟩
  obtain ⟨a, b, c, d, f, g, rest, spelled, last⟩ := ending e (mem_allEvents h)
  have found : mark (front ++ e.ending) = some g := by
    unfold mark
    rw [String.toList_append, List.reverse_append, spelled]
    rfl
  rw [found]
  exact last.imp (congrArg some) (congrArg some)

def eventImportNames (runtime : String) (m : ProcessModel) : List Import :=
  .name "Deref" ["std", "ops", "Deref"] :: (eventImports m).map fun n => .name n [runtime, "event", n]

/-- every name that an event file can import from the runtime -/
def allEventImports : List String := ["DataEvent", "ProcessDataEvent", "ProcessInstanceDataEvent",
  "UserTaskInstanceDataEvent", "VariableInstanceDataEvent"]

theorem mem_allEventImports {m : ProcessModel} {n : String} (h : n ∈ eventImports m) : n ∈ allEventImports := by
  have envelopes : ∀ e ∈ [instanceEvent, userTaskEvent, variableEvent], e.envelope ∈ allEventImports := by decide
  rcases List.mem_cons.1 h with rfl | h
  · decide
  rcases List.mem_cons.1 h with rfl | h
  · decide
  obtain ⟨e, he, rfl⟩ := List.mem_map.1 h
  exact envelopes e (mem_allEvents he)

theorem typeName_ne {m : ProcessModel} {e : EventType} (h : e ∈ eventTypes m) (id : String) {n : String}
    (imported : n ∈ "Deref" :: eventImports m) : n ≠ e.typeName id := by
  have marks : ∀ n ∈ "Deref" :: allEventImports, mark n ≠ some 'e' ∧ mark n ≠ some 'k' := by decide
  have known : n ∈ "Deref" :: allEventImports := by
    rcases List.mem_cons.1 imported with rfl | h
    · exact List.mem_cons_self
    · exact List.mem_cons_of_mem _ (mem_allEventImports h)
  rintro rfl
  rcases mark_ending h (processTypeName id) with marked | marked
  · exact (marks _ known).1 marked
  · exact (marks _ known).2 marked

theorem imports_events (runtime : String) (m : ProcessModel) :
    (eventsItems runtime m).flatMap Item.imports = eventImportNames runtime m := by
  have others : "self" ∉ eventImports m := fun h => absurd (mem_allEventImports h) (by decide)
  have deref : "Deref" ≠ "self" := by decide
  have silent : ((eventTypes m).flatMap fun e => e.items m.id).flatMap Item.imports = [] := by
    rw [List.flatMap_assoc, List.flatMap_eq_nil_iff]
    exact fun _ _ => rfl
  rw [eventsItems, List.flatMap_append, silent, List.append_nil, List.flatMap_cons, List.flatMap_cons]
  simp only [Item.imports, UseTree.imports, importsOfAll_names _ others, deref, if_false, Bool.false_eq_true,
    List.flatMap_nil, List.append_nil]
  rfl

theorem declared_events (runtime : String) (m : ProcessModel) :
    (eventsItems runtime m).filterMap Item.declares? = (eventTypes m).map fun e => e.typeName m.id := by
  rw [eventsItems, List.filterMap_append, List.filterMap_flatMap]
  exact List.map_eq_flatMap.symm

/-- the full names of the envelope and the traits of events -/
def eventName (runtime name : String) : String := runtime ++ "::event::" ++ name

/-- an event type with its edges -/
def EventType.info (e : EventType) (runtime : String) : TypeInfo :=
  .ofStruct (some (eventName runtime e.envelope)) [eventName runtime "DataEvent", eventName runtime "ProcessDataEvent"]

def EventType.facts (e : EventType) (modulePath runtime id : String) : TypeIndex.TypeFacts where
  name := modulePath ++ "::" ++ e.typeName id
  first := .declared .struct
  others := [{ supertype := some (eventName runtime e.envelope) },
    { interfaces := NameSet.empty.insert (eventName runtime "DataEvent") },
    { interfaces := NameSet.empty.insert (eventName runtime "ProcessDataEvent") }]

theorem resolve_eventImport (isRuntime : namesType runtime = true) {m : ProcessModel} {n : String}
    (h : n ∈ eventImports m) :
    (Scope.ofItems crateName modulePath (eventsItems runtime m)).resolve ⟨false, [n]⟩ = eventName runtime n := by
  have type : ∀ n ∈ allEventImports, namesType n = true ∧ n ≠ "Deref" := by decide
  have known := type n (mem_allEventImports h)
  refine (Scope.resolve_imported [runtime, "event", n] known.1 ?_ ?_ ?_).trans ?_
  · rw [declared_events]
    intro declared
    obtain ⟨e, he, same⟩ := List.mem_map.1 declared
    exact typeName_ne he m.id (List.mem_cons_of_mem _ h) same.symm
  · rw [imports_events]
    exact List.mem_cons_of_mem _ (List.mem_map.2 ⟨n, h, rfl⟩)
  · rw [imports_events]
    intro others imported
    rcases List.mem_cons.1 imported with deref | imported
    · exact absurd (Import.name.inj deref).1 known.2
    · obtain ⟨_, -, same⟩ := List.mem_map.1 imported
      obtain ⟨rfl, rfl⟩ := Import.name.inj same
      rfl
  · rw [Scope.absolute_crate isRuntime]
    exact joinSegments_three runtime "event" n

theorem resolve_deref (m : ProcessModel) :
    (Scope.ofItems crateName modulePath (eventsItems runtime m)).resolve ⟨false, ["Deref"]⟩ = "std::ops::Deref" := by
  refine (Scope.resolve_imported ["std", "ops", "Deref"] (by decide) ?_ ?_ ?_).trans ?_
  · rw [declared_events]
    intro declared
    obtain ⟨e, he, same⟩ := List.mem_map.1 declared
    exact typeName_ne he m.id List.mem_cons_self same.symm
  · rw [imports_events]
    exact List.mem_cons_self
  · rw [imports_events]
    intro others imported
    rcases List.mem_cons.1 imported with deref | imported
    · exact (Import.name.inj deref).2
    · obtain ⟨n, isImport, same⟩ := List.mem_map.1 imported
      obtain ⟨rfl, -⟩ := Import.name.inj same
      exact absurd (mem_allEventImports isImport) (by decide)
  · exact Scope.absolute_crate (by decide) _

theorem factsOfAll_event (isRuntime : namesType runtime = true) {m : ProcessModel} {e : EventType} (h : e ∈ eventTypes m) :
    factsOfAll (Scope.ofItems crateName modulePath (eventsItems runtime m)) (e.items m.id) =
      (e.facts modulePath runtime m.id).facts := by
  have type : namesType (e.typeName m.id) = true :=
    namesType_of_identifier ((spells_eventTypes e h).typeName m.id)
  have self : (Scope.ofItems crateName modulePath (eventsItems runtime m)).resolve ⟨false, [e.typeName m.id]⟩ =
      modulePath ++ "::" ++ e.typeName m.id := by
    refine Scope.resolve_declared type ?_
    rw [declared_events]
    exact List.mem_map.2 ⟨e, h, rfl⟩
  have envelope : e.envelope ∈ eventImports m :=
    List.mem_cons_of_mem _ (List.mem_cons_of_mem _ (List.mem_map.2 ⟨e, h, rfl⟩))
  have dataEvent : "DataEvent" ∈ eventImports m := List.mem_cons_self
  have processDataEvent : "ProcessDataEvent" ∈ eventImports m := List.mem_cons_of_mem _ List.mem_cons_self
  refine factsOfAll_structure [
    (e.impl m.id "Deref" [some ⟨false, [e.envelope]⟩], { supertype := some (eventName runtime e.envelope) }),
    (e.impl m.id "DataEvent" [], { interfaces := NameSet.empty.insert (eventName runtime "DataEvent") }),
    (e.impl m.id "ProcessDataEvent" [], { interfaces := NameSet.empty.insert (eventName runtime "ProcessDataEvent") })]
    Scope.localName_ofItems (List.forall_mem_cons.2 ⟨?_, List.forall_mem_cons.2 ⟨?_, List.forall_mem_singleton.2 ?_⟩⟩)
  · exact facts_deref self (resolve_deref m) (resolve_eventImport isRuntime envelope)
  · exact facts_interface self (resolve_eventImport isRuntime dataEvent) (not_isDeref (by simp [eventName]))
  · exact facts_interface self (resolve_eventImport isRuntime processDataEvent)
      (not_isDeref (by simp [eventName]))

theorem append_lt_append {a b : String} (front : String) (h : a < b) : front ++ a < front ++ b := by
  show (front ++ a).toList < (front ++ b).toList
  rw [String.toList_append, String.toList_append]
  exact List.append_left_lt h

/-- the types of an event file are in ascending order -/
theorem ascending_events (modulePath runtime : String) (m : ProcessModel) :
    ((eventTypes m).map fun e => e.facts modulePath runtime m.id).Pairwise fun a b => a.name < b.name := by
  have endings : (eventTypes m).Pairwise fun a b => a.ending < b.ending := by
    unfold eventTypes
    cases m.hasHumanTasks
    all_goals
      cases m.hasVariables
      all_goals decide
  refine List.pairwise_map.2 (endings.imp fun h => ?_)
  exact append_lt_append _ (append_lt_append _ h)

/-- **An event file** tells of its event types. -/
theorem entries_events (isRuntime : namesType runtime = true) (m : ProcessModel) :
    (TypeIndex.ofItems crateName modulePath (eventsItems runtime m)).types.entries =
      (eventTypes m).map fun e => (modulePath ++ "::" ++ e.typeName m.id, e.info runtime) := by
  have facts : factsOfAll (Scope.ofItems crateName modulePath (eventsItems runtime m)) (eventsItems runtime m) =
      ((eventTypes m).map fun e => e.facts modulePath runtime m.id).flatMap TypeIndex.TypeFacts.facts := by
    have events : (eventTypes m).map (fun e => factsOfAll (Scope.ofItems crateName modulePath (eventsItems runtime m))
        (e.items m.id)) = (eventTypes m).map fun e => (e.facts modulePath runtime m.id).facts :=
      List.map_congr_left fun e he => factsOfAll_event isRuntime he
    generalize Scope.ofItems crateName modulePath (eventsItems runtime m) = scope at events
    rw [eventsItems, factsOfAll_append, factsOfAll_silent (List.forall_mem_cons.2 ⟨isSilent_use _ _,
      List.forall_mem_singleton.2 (isSilent_use _ _)⟩), List.nil_append, factsOfAll_flatMap, List.flatMap_def,
      events, List.flatMap_map, List.flatMap_def]
  unfold TypeIndex.ofItems
  rw [facts, TypeIndex.entries_ofFacts (ascending_events modulePath runtime m), List.map_map]
  rfl

/-! ## Resource files -/

/-- the imports of a resource file -/
def restImportNames (runtime : String) (m : ProcessModel) : List Import := [
  .everything [runtime, "prelude"], .name "Method" [runtime, "rest", "Method"],
  .name "RestResource" [runtime, "rest", "RestResource"], .name "Route" [runtime, "rest", "Route"],
  .name (processTypeName m.id) ["crate", scopeModule m.id, processTypeName m.id]]

theorem imports_rest (runtime : String) (m : ProcessModel) :
    (restItems runtime m).flatMap Item.imports = restImportNames runtime m := by
  have others : "self" ∉ ["Method", "RestResource", "Route"] := by decide
  have type : processTypeName m.id ≠ "self" :=
    (namesType_ne (namesType_of_identifier (identifier_processTypeName m.id))).2.2.1
  have group := importsOfAll_names ([] ++ [runtime] ++ ["rest"]) others
  simp only [List.map_cons, List.map_nil] at group
  simp only [restItems, List.flatMap_cons, List.flatMap_nil, Item.imports, UseTree.imports, group, type, if_false,
    Bool.false_eq_true]
  rfl

/-- **A resource file** tells of the type of the resource, which is a resource. -/
theorem entries_rest (isRuntime : namesType runtime = true) (m : ProcessModel) :
    (TypeIndex.ofItems crateName modulePath (restItems runtime m)).types.entries =
      [(modulePath ++ "::" ++ resourceName m.id, .ofStruct none [runtime ++ "::rest::RestResource"])] := by
  have type := namesType_of_identifier (identifier_resourceName m.id)
  have notType : "RestResource" ≠ processTypeName m.id := ne_processTypeName (by decide) m.id
  have notResource : "RestResource" ≠ resourceName m.id := fun e =>
    ne_processTypeName (w := "Rest") (by decide) m.id ((String.append_left_inj "Resource").1 e)
  have self : (Scope.ofItems crateName modulePath (restItems runtime m)).resolve ⟨false, [resourceName m.id]⟩ =
      modulePath ++ "::" ++ resourceName m.id :=
    Scope.resolve_declared type List.mem_cons_self
  have trait : (Scope.ofItems crateName modulePath (restItems runtime m)).resolve ⟨false, ["RestResource"]⟩ =
      runtime ++ "::rest::RestResource" := by
    refine (Scope.resolve_imported [runtime, "rest", "RestResource"] (by decide) ?_ ?_ ?_).trans ?_
    · exact fun h => notResource (List.mem_singleton.1 h)
    · rw [imports_rest]
      exact List.mem_cons_of_mem _ (List.mem_cons_of_mem _ List.mem_cons_self)
    · rw [imports_rest]
      intro others h
      simpa [restImportNames, notType] using h
    · rw [Scope.absolute_crate isRuntime]
      exact (joinSegments_three runtime "rest" "RestResource").trans String.append_assoc
  -- the imports tell of no type; the structure and its implementation tell of one
  refine entries_structure ((restItems runtime m).take 3) []
    [(.impl ⟨false, ⟨false, ["RestResource"]⟩, some ⟨false, [resourceName m.id]⟩, []⟩,
      { interfaces := NameSet.empty.insert (runtime ++ "::rest::RestResource") })] rfl ?_ ?_ ?_
  · exact List.forall_mem_cons.2 ⟨isSilent_use _ _, List.forall_mem_cons.2 ⟨isSilent_use _ _,
      List.forall_mem_singleton.2 (isSilent_use _ _)⟩⟩
  · exact List.forall_mem_nil _
  · exact List.forall_mem_singleton.2 (facts_interface self trait (not_isDeref (by simp)))

/-! ## The other files -/

theorem imports_messaging (runtime : String) : (messagingItems runtime).flatMap Item.imports =
    .name "cloudevents" [runtime, "cloudevents"] :: (extensions.map fun e => .name e [runtime, "cloudevents", e]) ++
      [.name "Startup" [runtime, "startup", "Startup"]] := by
  have others : "self" ∉ extensions := by decide
  have startup : "Startup" ≠ "self" := by decide
  simp only [messagingItems, cloudEventImports, List.map_cons, List.flatMap_cons, List.flatMap_nil, Item.imports,
    UseTree.imports, UseTree.importsOfAll, importsOfAll_names _ others, startup, if_false, if_true, Bool.false_eq_true]
  rfl

/-- **The hook** tells of its type, which is run at startup. -/
theorem entries_messaging (isRuntime : namesType runtime = true) :
    (TypeIndex.ofItems crateName modulePath (messagingItems runtime)).types.entries =
      [(modulePath ++ "::" ++ hookName, .ofStruct none [runtime ++ "::startup::Startup"])] := by
  have self : (Scope.ofItems crateName modulePath (messagingItems runtime)).resolve ⟨false, [hookName]⟩ =
      modulePath ++ "::" ++ hookName :=
    Scope.resolve_declared (by decide) List.mem_cons_self
  have trait : (Scope.ofItems crateName modulePath (messagingItems runtime)).resolve ⟨false, ["Startup"]⟩ =
      runtime ++ "::startup::Startup" := by
    refine (Scope.resolve_imported [runtime, "startup", "Startup"] (by decide) ?_ ?_ ?_).trans ?_
    · exact fun h => absurd (List.mem_singleton.1 h) (by decide)
    · rw [imports_messaging]
      exact List.mem_append_right _ List.mem_cons_self
    · rw [imports_messaging]
      intro others h
      simpa [extensions] using h
    · rw [Scope.absolute_crate isRuntime]
      exact (joinSegments_three runtime "startup" "Startup").trans String.append_assoc
  refine entries_structure ((messagingItems runtime).take 2) []
    [(.impl ⟨false, ⟨false, ["Startup"]⟩, some ⟨false, [hookName]⟩, []⟩,
      { interfaces := NameSet.empty.insert (runtime ++ "::startup::Startup") })] rfl ?_ ?_ ?_
  · exact List.forall_mem_cons.2 ⟨isSilent_use _ _, List.forall_mem_singleton.2 (isSilent_use _ _)⟩
  · exact List.forall_mem_nil _
  · exact List.forall_mem_singleton.2 (facts_interface self trait (not_isDeref (by simp)))

/-- **The marker for hot reload** tells of its type, which leads nowhere. -/
theorem entries_hotReload :
    (TypeIndex.ofItems crateName modulePath [.struct "HotReloadSupport", .other]).types.entries =
      [(modulePath ++ "::HotReloadSupport", .ofStruct none [])] := by
  have name : modulePath ++ "::" ++ "HotReloadSupport" = modulePath ++ "::HotReloadSupport" := String.append_assoc
  rw [← name]
  exact entries_structure [] [.other] [] rfl (List.forall_mem_nil _)
    (List.forall_mem_singleton.2 isSilent_other) (List.forall_mem_nil _)

/-- **The crate root** tells of no types. -/
theorem entries_crateRoot (modules : List (String × String)) :
    (TypeIndex.ofItems crateName modulePath (modules.map (fun _ => .other) ++ [.other, .other])).types.entries = [] := by
  have silent : ∀ item ∈ modules.map (fun _ => Item.other) ++ [.other, .other], item.IsSilent := by
    intro item h
    rcases List.mem_append.1 h with module | last
    · obtain ⟨_, -, rfl⟩ := List.mem_map.1 module
      exact isSilent_other
    · exact (List.mem_replicate (n := 2).1 last).2 ▸ isSilent_other
  unfold TypeIndex.ofItems
  rw [factsOfAll_silent silent]
  rfl

end Generation
end ProcessBuild
