/-
The part of a process that its generated code carries. Metadata and work parameters keep the entries whose values are
supported, each scope keeps the variables that no scope before it names, and a connection without an id is given that
of its two ends. Nothing else is changed.

Each part of the normal form is read back from the calls that the part is translated to.
- `readMetadata_entryCalls`, `readVariables_variableCalls`: metadata and the variables of a scope.
- `readActivity_activitySections`: what only one kind of node has.
-/
import ProcessBuild.Proofs.Translation.Outcome
import ProcessBuild.Proofs.Builder.Reading

namespace ProcessBuild.Translation

open Builder

/-! ## The normal form -/

/-- the kinds of values that generated code carries -/
def isCarried : MetadataValue → Bool
  | .boolean _ | .integer _ | .long _ | .text _ => true
  | .other _ => false

/-- the metadata with supported values -/
def supported (m : Metadata) : Metadata := ⟨m.entries.filter fun e => isCarried e.2, m.ascending.filter _⟩

/-- the variables of a scope that were not named before -/
def firstDeclarations (seen : List String) : List Variable → List Variable
  | [] => []
  | v :: rest => if v.name ∈ seen then firstDeclarations seen rest else v :: firstDeclarations (seen ++ [v.name]) rest

/-- the names named after variables, too -/
def namedAfter (seen : List String) (vs : List Variable) : List String := seen ++ vs.map Variable.name

/-- an activity with supported work parameters -/
def normalActivity : Activity → Activity
  | .workItem workName parameters => .workItem workName (supported parameters)
  | a => a

/-- a connection with an id; one without takes that of its two ends, with a dash between them -/
def normalConnection (x : Connection) : Connection :=
  { x with id := some (x.id.getD (toString x.source ++ "-" ++ toString x.target)) }

/-- what a node carries whatever its kind, once some names are named -/
def normalInfo (seen : List String) (info : NodeInfo) : NodeInfo :=
  let vars := firstDeclarations seen (info.vars.getD [])
  { info with metadata := supported info.metadata, vars := if vars.isEmpty then none else some vars }

mutual

/-- the normal form of a node, once some names are named -/
def normalNode (seen : List String) : Node → Node
  | .activity info a => .activity (normalInfo seen info) (normalActivity a)
  | .subProcess info nodes connections autoComplete =>
    .subProcess (normalInfo seen info) (normalNodes (namedAfter seen (info.vars.getD [])) nodes)
      (connections.map normalConnection) autoComplete

/-- the normal forms of the nodes of a list; each node's variables are named when the next one is met -/
def normalNodes (seen : List String) : List Node → List Node
  | [] => []
  | n :: rest => normalNode seen n :: normalNodes (namedAfter seen (nodeVariables n)) rest

end

/-- the normal form of a process -/
def normalForm (m : ProcessModel) : ProcessModel :=
  { m with
    nodes := normalNodes (namedAfter [] m.vars) m.nodes
    connections := m.connections.map normalConnection
    vars := firstDeclarations [] m.vars
    metadata := supported m.metadata }

/-! ## Events of calls -/

/-- what a builder that a statement was executed on is seen to hold -/
def event : Statement → Event
  | .call _ method arguments => .call method arguments
  | .bind _ _ method _ => .call method []

theorem readOptional_optionalCall (target method : String) (value : Option String) :
    readOptional ((optionalCall target method value).map event) = some value := by
  cases value with
  | none => rfl
  | some s => rfl

/-- a supported value is read back from its argument, and no other value has one -/
theorem valueArgument_cases (v : MetadataValue) :
    (valueArgument v = none ∧ isCarried v = false) ∨
      ∃ a, valueArgument v = some a ∧ readValue a = some v ∧ isCarried v = true := by
  cases v with
  | boolean b => exact Or.inr ⟨.flag b, rfl, rfl, rfl⟩
  | integer i => exact Or.inr ⟨.int32 i, rfl, rfl, rfl⟩
  | long i => exact Or.inr ⟨.int64 i, rfl, rfl, rfl⟩
  | text s => exact Or.inr ⟨.text s, rfl, rfl, rfl⟩
  | other j => exact Or.inl ⟨rfl, rfl⟩

/-- **Metadata is read back** without the entries that are not supported. -/
theorem readMetadata_entryCalls (target method : String) (m : Metadata) :
    readMetadata ((entryCalls target method m).map event) = some (supported m) := by
  have entries : ∀ es : List (String × MetadataValue),
      ((es.filterMap fun e => (valueArgument e.2).map fun value =>
        Statement.call target method [.text e.1, value]).map event).mapM readEntry =
        some (es.filter fun e => isCarried e.2) := by
    intro es
    induction es with
    | nil => rfl
    | cons e rest ih =>
      rcases valueArgument_cases e.2 with ⟨absent, unsupported⟩ | ⟨a, present, value, supported⟩
      · simp only [List.filterMap_cons, absent, Option.map_none, List.filter_cons, unsupported, Bool.false_eq_true,
          if_false, ih]
      · simp only [List.filterMap_cons, present, Option.map_some, List.filter_cons, supported, if_true, List.map_cons,
          List.mapM_cons, event, readEntry, value, ih]
        rfl
  unfold readMetadata entryCalls
  rw [entries, Option.bind_some, dif_pos (m.ascending.filter _)]
  rfl

/-- the declared variables are the names that were named -/
def Tracks (visited : NameSet) (seen : List String) : Prop := ∀ name, name ∈ visited ↔ name ∈ seen

theorem tracks_empty : Tracks NameSet.empty [] := by
  intro name
  simp

theorem Tracks.after {visited : NameSet} {seen : List String} (tracks : Tracks visited seen) (vs : List Variable) :
    Tracks (visitedAfter visited vs) (namedAfter seen vs) := by
  intro name
  rw [mem_visitedAfter, tracks name, namedAfter, List.mem_append, List.mem_map]

theorem Tracks.insert {visited : NameSet} {seen : List String} (tracks : Tracks visited seen) (name : String) :
    Tracks (visited.insert name) (seen ++ [name]) := by
  intro other
  rw [NameSet.mem_insert, tracks other, List.mem_append, List.mem_singleton, Or.comm]

theorem readVariable_variableCall (target : String) (scope : List String) (v : Variable) :
    readVariable scope (event (variableCall target scope v)) = some v := by
  unfold variableCall event readVariable tagsKey
  exact if_pos ⟨rfl, rfl⟩

/-- **The variables of a scope are read back** without those named before. -/
theorem readVariables_variableCalls (target : String) (scope : List String) (vs : List Variable) {visited : NameSet}
    {seen : List String} (tracks : Tracks visited seen) :
    ((variableCalls target scope visited vs).1.map event).mapM (readVariable scope) =
      some (firstDeclarations seen vs) := by
  induction vs generalizing visited seen with
  | nil => rfl
  | cons v rest ih =>
    rw [variableCalls, firstDeclarations]
    by_cases h : v.name ∈ seen
    · rw [if_pos (NameSet.contains_iff.2 ((tracks v.name).2 h)), if_pos h]
      exact ih tracks
    · rw [if_neg fun c => h ((tracks v.name).1 (NameSet.contains_iff.1 c)), if_neg h]
      rw [List.map_cons, List.mapM_cons, readVariable_variableCall, ih (tracks.insert v.name)]
      rfl

theorem readConstraints (builder : String) (xs : List Constraint) :
    ((xs.map (constraintStatement builder)).map event).mapM readConstraint = some xs := by
  rw [List.map_map]
  have each : ∀ x ∈ xs, readConstraint ((event ∘ constraintStatement builder) x) = some (id x) := fun x _ => rfl
  rw [mapM_eq_map each, List.map_id]

theorem readConnections (target : String) (xs : List Connection) :
    ((xs.map (connectionStatement target)).map event).mapM readConnection = some (xs.map normalConnection) := by
  rw [List.map_map]
  exact mapM_eq_map fun x _ => rfl

/-! ## Activities -/

/-- the calls of an activity, turn by turn -/
def activitySections (builder : String) : Activity → Sections
  | .start trigger => [(some "trigger", (optionalCall builder "trigger" trigger).map event)]
  | .finish terminate => [(some "terminate", [.call "terminate" [.flag terminate]])]
  | .action dialect script => [(some "action", [.call "action" [.text dialect, .text script]])]
  | .workItem workName parameters =>
    [(some "work_name", [.call "work_name" [.text workName]]),
      (some "work_parameter", (entryCalls builder "work_parameter" parameters).map event)]
  | .humanTask taskName actorId groupId =>
    [(some "task_name", [.call "task_name" [.text taskName]]),
      (some "actor_id", (optionalCall builder "actor_id" actorId).map event),
      (some "group_id", (optionalCall builder "group_id" groupId).map event)]
  | .split gateway constraints =>
    [(some "split_type", [.call "split_type" [.gateway gateway]]),
      (some "constraint", (constraints.map (constraintStatement builder)).map event)]
  | .join gateway => [(some "join_type", [.call "join_type" [.gateway gateway]])]
  | .event eventType variableName =>
    [(some "event_type", [.call "event_type" [.text eventType]]),
      (some "variable_name", (optionalCall builder "variable_name" variableName).map event)]
  | .timer delay period =>
    [(some "delay", (optionalCall builder "delay" delay).map event),
      (some "period", (optionalCall builder "period" period).map event)]
  | .boundaryEvent eventType attachedTo cancelActivity =>
    [(some "event_type", [.call "event_type" [.text eventType]]),
      (some "attached_to", [.call "attached_to" [.text attachedTo]]),
      (some "cancel_activity", [.call "cancel_activity" [.flag cancelActivity]])]

theorem assemble_activitySections (builder : String) (a : Activity) :
    (activityStatements builder a).map event = (activitySections builder a).assemble := by
  cases a <;> simp [activityStatements, activitySections, Sections.assemble, event]

theorem activitySections_turns (builder : String) (a : Activity) :
    (activitySections builder a).map Prod.fst = ownProtocol a.kind := by
  cases a <;> rfl

theorem tagged_optionalCall {target method : String} {value : Option String} :
    ∀ e ∈ (optionalCall target method value).map event, e.method = some method := by
  cases value with
  | none => simp [optionalCall]
  | some s => simp [optionalCall, event, Event.method]

theorem tagged_entryCalls {target method : String} {m : Metadata} :
    ∀ e ∈ (entryCalls target method m).map event, e.method = some method := by
  intro e he
  obtain ⟨x, hx, rfl⟩ := List.mem_map.1 he
  obtain ⟨entry, -, h⟩ := List.mem_filterMap.1 hx
  obtain ⟨value, -, rfl⟩ := Option.map_eq_some_iff.1 h
  rfl

theorem tagged_map {α : Type} {f : α → Statement} {method : String} (h : ∀ x, (event (f x)).method = some method)
    (xs : List α) : ∀ e ∈ (xs.map f).map event, e.method = some method := by
  intro e he
  obtain ⟨x, hx, rfl⟩ := List.mem_map.1 he
  obtain ⟨y, -, rfl⟩ := List.mem_map.1 hx
  exact h y

theorem tagged_single {method : String} {arguments : List Argument} :
    ∀ e ∈ [Event.call method arguments], e.method = some method := by
  intro e he
  rw [List.mem_singleton.1 he]
  rfl

theorem tagged_activitySections (builder : String) (a : Activity) :
    ∀ s ∈ activitySections builder a, ∀ e ∈ s.2, e.method = s.1 := by
  cases a with
  | start trigger => exact List.forall_mem_singleton.2 tagged_optionalCall
  | finish terminate => exact List.forall_mem_singleton.2 tagged_single
  | action dialect script => exact List.forall_mem_singleton.2 tagged_single
  | workItem workName parameters =>
    exact List.forall_mem_cons.2 ⟨tagged_single, List.forall_mem_singleton.2 tagged_entryCalls⟩
  | humanTask taskName actorId groupId =>
    exact List.forall_mem_cons.2 ⟨tagged_single, List.forall_mem_cons.2 ⟨tagged_optionalCall,
      List.forall_mem_singleton.2 tagged_optionalCall⟩⟩
  | split gateway constraints =>
    exact List.forall_mem_cons.2 ⟨tagged_single, List.forall_mem_singleton.2 (tagged_map (fun _ => rfl) constraints)⟩
  | join gateway => exact List.forall_mem_singleton.2 tagged_single
  | event eventType variableName =>
    exact List.forall_mem_cons.2 ⟨tagged_single, List.forall_mem_singleton.2 tagged_optionalCall⟩
  | timer delay period =>
    exact List.forall_mem_cons.2 ⟨tagged_optionalCall, List.forall_mem_singleton.2 tagged_optionalCall⟩
  | boundaryEvent eventType attachedTo cancelActivity =>
    exact List.forall_mem_cons.2 ⟨tagged_single, List.forall_mem_cons.2 ⟨tagged_single,
      List.forall_mem_singleton.2 tagged_single⟩⟩

/-- **An activity is read back from its turns.** -/
theorem readActivity_activitySections {builder : String} {a : Activity} {own : String → List Event}
    (turns : ∀ method events, (some method, events) ∈ activitySections builder a → own method = events) :
    readActivity own a.kind = some (normalActivity a) := by
  -- each turn of a kind has a method of its own, and is read by what its calls carry
  cases a with
  | start trigger =>
    simp only [Activity.kind, readActivity, turns _ _ List.mem_cons_self, readOptional_optionalCall]
    rfl
  | finish terminate =>
    simp only [Activity.kind, readActivity, turns _ _ List.mem_cons_self, readFlag]
    rfl
  | action dialect script =>
    simp only [Activity.kind, readActivity, turns _ _ List.mem_cons_self, readTexts]
    rfl
  | workItem workName parameters =>
    have named := turns "work_name" _ List.mem_cons_self
    have given := turns "work_parameter" _ (List.mem_cons_of_mem _ List.mem_cons_self)
    simp only [Activity.kind, readActivity, named, given, readText, readMetadata_entryCalls]
    rfl
  | humanTask taskName actorId groupId =>
    have named := turns "task_name" _ List.mem_cons_self
    have actor := turns "actor_id" _ (List.mem_cons_of_mem _ List.mem_cons_self)
    have group := turns "group_id" _ (List.mem_cons_of_mem _ (List.mem_cons_of_mem _ List.mem_cons_self))
    simp only [Activity.kind, readActivity, named, actor, group, readText, readOptional_optionalCall]
    rfl
  | split gateway constraints =>
    have type := turns "split_type" _ List.mem_cons_self
    have branches := turns "constraint" _ (List.mem_cons_of_mem _ List.mem_cons_self)
    simp only [Activity.kind, readActivity, type, branches, readGateway, readConstraints]
    rfl
  | join gateway =>
    simp only [Activity.kind, readActivity, turns _ _ List.mem_cons_self, readGateway]
    rfl
  | event eventType variableName =>
    have type := turns "event_type" _ List.mem_cons_self
    have held := turns "variable_name" _ (List.mem_cons_of_mem _ List.mem_cons_self)
    simp only [Activity.kind, readActivity, type, held, readText, readOptional_optionalCall]
    rfl
  | timer delay period =>
    have first := turns "delay" _ List.mem_cons_self
    have second := turns "period" _ (List.mem_cons_of_mem _ List.mem_cons_self)
    simp only [Activity.kind, readActivity, first, second, readOptional_optionalCall]
    rfl
  | boundaryEvent eventType attachedTo cancelActivity =>
    have type := turns "event_type" _ List.mem_cons_self
    have attached := turns "attached_to" _ (List.mem_cons_of_mem _ List.mem_cons_self)
    have cancels := turns "cancel_activity" _ (List.mem_cons_of_mem _ (List.mem_cons_of_mem _ List.mem_cons_self))
    simp only [Activity.kind, readActivity, type, attached, cancels, readText, readFlag]
    rfl

end ProcessBuild.Translation
