/-
What generated code means. Executing the statements of a generated `build` function against a recording factory, and
reading what is recorded back, gives the normal form of the process that the code was generated from.

`Records scope depth target statements events` says that the statements, executed where `target` stands for a builder,
record entries on that builder which read as the events, and leave alone what the names of builders up to `depth` stand
for. It is composed of calls (`records_calls`), of one list of statements after another (`Records.append`) and of the
builder of a node with what is recorded on it (`Records.node`).
- `records_nodeStatements`: a node records its normal form, whatever is around it.
- `meaning_of_compile`: a process that is translated means its normal form.
-/
import ProcessBuild.Proofs.Translation.BuilderName
import ProcessBuild.Proofs.Translation.NormalForm

namespace ProcessBuild.Translation

open Builder

/-- the process that a generated file describes; variables have to resolve their types at its own type -/
def Program.meaning (p : Program) : Option ProcessModel :=
  (record p.statements (Recording.start p.factory)).bind fun s => readProcess p.processId [p.typeName] s.entries

/-! ## Statements and what they record -/

/-- the statements record the events on the target, and names up to the depth stand for what they stood for -/
def Records (scope : List String) (depth : Nat) (target : String) (statements : List Statement)
    (events : List Event) : Prop :=
  ∀ (place : List Nat) (hole : List Entry → List Entry) (before : List Entry) (bound : String → Option (List Nat)),
    Focus place hole → bound target = some place →
      ∃ bound' entries, record statements ⟨hole before, bound⟩ = some ⟨hole (before ++ entries), bound'⟩ ∧
        (∀ name, level name ≤ depth → bound' name = bound name) ∧ readAll scope entries = some events

theorem readAll_append {scope : List String} {xs ys : List Entry} {first second : List Event}
    (hx : readAll scope xs = some first) (hy : readAll scope ys = some second) :
    readAll scope (xs ++ ys) = some (first ++ second) := by
  induction xs generalizing first with
  | nil =>
    cases hx
    exact hy
  | cons e rest ih =>
    rw [readAll] at hx
    obtain ⟨head, read, others⟩ := Option.bind_eq_some_iff.1 hx
    obtain ⟨tail, rest_read, rfl⟩ := Option.map_eq_some_iff.1 others
    rw [List.cons_append, readAll, read, Option.bind_some, ih rest_read]
    rfl

section Composition

variable {scope : List String} {depth : Nat} {target : String}

theorem records_nil : Records scope depth target [] [] := by
  intro place hole before bound focus standsFor
  exact ⟨bound, [], by rw [List.append_nil]; rfl, fun _ _ => rfl, rfl⟩

theorem Records.append {xs ys : List Statement} {first second : List Event} (deep : level target ≤ depth)
    (hx : Records scope depth target xs first) (hy : Records scope depth target ys second) :
    Records scope depth target (xs ++ ys) (first ++ second) := by
  intro place hole before bound focus standsFor
  obtain ⟨bound₁, entries₁, run₁, same₁, read₁⟩ := hx place hole before bound focus standsFor
  have standsFor₁ : bound₁ target = some place := (same₁ target deep).trans standsFor
  obtain ⟨bound₂, entries₂, run₂, same₂, read₂⟩ := hy place hole (before ++ entries₁) bound₁ focus standsFor₁
  refine ⟨bound₂, entries₁ ++ entries₂, ?_, fun name h => (same₂ name h).trans (same₁ name h),
    readAll_append read₁ read₂⟩
  rw [record_append, run₁, Option.bind_some, run₂, List.append_assoc]

theorem records_calls {calls : List Statement} (on : ∀ x ∈ calls, x.isCallOn target = true) :
    Records scope depth target calls (calls.map event) := by
  intro place hole before bound focus standsFor
  refine ⟨bound, calls.map Statement.entry, record_calls focus standsFor calls on before, fun _ _ => rfl, ?_⟩
  induction calls with
  | nil => rfl
  | cons x rest ih =>
    have read := ih fun y hy => on y (List.mem_cons_of_mem x hy)
    obtain ⟨method, arguments, rfl⟩ := Statement.exists_call (on x List.mem_cons_self)
    rw [List.map_cons, readAll, read]
    rfl

/-- a builder with what is recorded on it; its name is one level below the builder that it is opened on -/
theorem Records.node {name method : String} {id : NodeId} {body : List Statement} {events : List Event} {n : Node}
    (named : level name = depth + 1) (inner : Records scope (depth + 1) name body events)
    (read : readNode scope method id events = some n) :
    Records scope depth target (.bind name target method id :: body) [.node n] := by
  intro place hole before bound focus standsFor
  let bound₁ := fun other => if other = name then some (place ++ [before.length]) else bound other
  have focus₁ : Focus _ fun inside => hole (before ++ [.builder method id inside]) := focus.last before method id
  obtain ⟨bound₂, entries, run, same, readEntries⟩ := inner _ _ [] bound₁ focus₁ (if_pos rfl)
  refine ⟨bound₂, [.builder method id entries], ?_, fun other h => ?_, ?_⟩
  · rw [record_cons, record_bind focus standsFor, Option.bind_some]
    exact run
  · have different : other ≠ name := by
      rintro rfl
      omega
    exact (same other (by omega)).trans (if_neg different)
  · rw [readAll, readAll, Entry.read, readEntries, Option.bind_some, read]
    rfl

end Composition

/-! ## The turns of a node -/

/-- the calls that every node's builder starts with, turn by turn -/
def openingSections (builder : String) (scope : List String) (visited : NameSet) (info : NodeInfo) : Sections :=
  [(some "name", (optionalCall builder "name" info.name).map event),
    (some "metadata", (metadataCalls builder info.metadata).map event),
    (some "variable", (variableCalls builder scope visited (info.vars.getD [])).1.map event)]

/-- what is recorded on the builder of a node, turn by turn -/
def nodeSections (builder : String) (scope : List String) (visited : NameSet) (info : NodeInfo) (own : Sections) :
    Sections :=
  openingSections builder scope visited info ++ own ++ [(some "done", [.call "done" []])]

theorem mem_variableCalls {target : String} {scope : List String} {visited : NameSet} {vs : List Variable}
    {x : Statement} (h : x ∈ (variableCalls target scope visited vs).1) : ∃ v ∈ vs, x = variableCall target scope v := by
  induction vs generalizing visited with
  | nil => cases h
  | cons v rest ih =>
    rw [variableCalls] at h
    split at h
    · obtain ⟨w, hw, rfl⟩ := ih h
      exact ⟨w, List.mem_cons_of_mem v hw, rfl⟩
    · rcases List.mem_cons.1 h with rfl | later
      · exact ⟨v, List.mem_cons_self, rfl⟩
      · obtain ⟨w, hw, rfl⟩ := ih later
        exact ⟨w, List.mem_cons_of_mem v hw, rfl⟩

theorem tagged_variableCalls {target : String} {scope : List String} {visited : NameSet} {vs : List Variable} :
    ∀ e ∈ (variableCalls target scope visited vs).1.map event, e.method = some "variable" := by
  intro e he
  obtain ⟨x, hx, rfl⟩ := List.mem_map.1 he
  obtain ⟨v, -, rfl⟩ := mem_variableCalls hx
  rfl

section Node

variable {builder : String} {scope : List String} {visited : NameSet} {seen : List String} {info : NodeInfo}
  {own : Sections} {kind : NodeKind}

theorem nodeSections_turns (turns : own.map Prod.fst = ownProtocol kind) :
    nodeProtocol kind = (nodeSections builder scope visited info own).map Prod.fst := by
  unfold nodeSections nodeProtocol
  rw [List.map_append, List.map_append, turns]
  rfl

theorem tagged_openingSections : ∀ s ∈ openingSections builder scope visited info, ∀ e ∈ s.2, e.method = s.1 :=
  List.forall_mem_cons.2 ⟨tagged_optionalCall,
    List.forall_mem_cons.2 ⟨tagged_entryCalls, List.forall_mem_singleton.2 tagged_variableCalls⟩⟩

theorem nodeProtocol_nodup (kind : NodeKind) : (nodeProtocol kind).Nodup := by
  cases kind <;> decide

theorem nodeSections_proper (turns : own.map Prod.fst = ownProtocol kind)
    (tagged : ∀ s ∈ own, ∀ e ∈ s.2, e.method = s.1) : (nodeSections builder scope visited info own).Proper := by
  refine ⟨fun s hs => ?_, nodeSections_turns turns ▸ nodeProtocol_nodup kind⟩
  rcases List.mem_append.1 hs with front | last
  · rcases List.mem_append.1 front with opening | inner
    · exact tagged_openingSections s opening
    · exact tagged s inner
  · rw [List.mem_singleton.1 last]
    exact tagged_single

theorem openedKind?_builderMethod (kind : NodeKind) : openedKind? kind.builderMethod = some kind := by
  cases kind <;> rfl

/-- the front of a node is read back from the opening turns of its builder -/
theorem readNode_opening (builder : String) (scope : List String) (info : NodeInfo) (own : Sections) (kind : NodeKind)
    (tracks : Tracks visited seen) (turns : own.map Prod.fst = ownProtocol kind)
    (tagged : ∀ s ∈ own, ∀ e ∈ s.2, e.method = s.1) :
    let events := (nodeSections builder scope visited info own).assemble
    inOrder (nodeProtocol kind) events = true ∧
      readOptional (turn events (some "name")) = some info.name ∧
      readMetadata (turn events (some "metadata")) = some (supported info.metadata) ∧
      (turn events (some "variable")).mapM (readVariable scope) = some (firstDeclarations seen (info.vars.getD [])) ∧
      readPlain (turn events (some "done")) = some () ∧
      ∀ s ∈ own, turn events s.1 = s.2 := by
  intro events
  have proper : (nodeSections builder scope visited info own).Proper := nodeSections_proper turns tagged
  -- each section is found whole at its turn, since no event of another section has its method
  have name := Sections.turn_assemble proper (List.mem_append_left _ (List.mem_append_left _ List.mem_cons_self))
  have metadata := Sections.turn_assemble proper
    (List.mem_append_left _ (List.mem_append_left _ (List.mem_cons_of_mem _ List.mem_cons_self)))
  have vars := Sections.turn_assemble proper (List.mem_append_left _ (List.mem_append_left _
    (List.mem_cons_of_mem _ (List.mem_cons_of_mem _ List.mem_cons_self))))
  have done := Sections.turn_assemble proper (List.mem_append_right _ List.mem_cons_self)
  refine ⟨Sections.inOrder_assemble proper (nodeSections_turns turns), ?_, ?_, ?_, ?_, fun s hs => ?_⟩
  · exact (congrArg readOptional name).trans (readOptional_optionalCall _ _ _)
  · exact (congrArg readMetadata metadata).trans (readMetadata_entryCalls _ _ _)
  · exact (congrArg (List.mapM (readVariable scope)) vars).trans (readVariables_variableCalls _ _ _ tracks)
  · exact congrArg readPlain done
  · exact Sections.turn_assemble proper (List.mem_append_left _ (List.mem_append_right _ hs))

theorem readNode_activity (tracks : Tracks visited seen) (a : Activity) :
    readNode scope a.kind.builderMethod info.id
        (nodeSections builder scope visited info (activitySections builder a)).assemble =
      some (.activity (normalInfo seen info) (normalActivity a)) := by
  obtain ⟨ordered, name, metadata, vars, done, own⟩ := readNode_opening builder scope info _ a.kind tracks
    (activitySections_turns builder a) (tagged_activitySections builder a)
  generalize (nodeSections builder scope visited info (activitySections builder a)).assemble = events at *
  have activity : readActivity (fun method => turn events (some method)) a.kind = some (normalActivity a) :=
    readActivity_activitySections fun method events h => own (some method, events) h
  have other : a.kind ≠ .subProcess := by
    intro h
    cases a <;> cases h
  unfold readNode
  simp only [openedKind?_builderMethod, ordered, name, metadata, vars, done, activity, other, Option.bind_eq_bind,
    Option.bind_some, guard, if_true, if_false]
  rfl

/-- the calls that only the builder of a sub-process gets, and the nodes on it -/
def subProcessSections (builder : String) (nodes : List Node) (connections : List Connection) (autoComplete : Bool) :
    Sections :=
  [(some "auto_complete", [.call "auto_complete" [.flag autoComplete]]), (none, nodes.map .node),
    (some "connection", (connections.map (connectionStatement builder)).map event)]

theorem tagged_nodes (nodes : List Node) : ∀ e ∈ nodes.map Event.node, e.method = none := by
  intro e he
  obtain ⟨n, -, rfl⟩ := List.mem_map.1 he
  rfl

theorem readNodes_nodes (nodes : List Node) : readNodes (nodes.map .node) = nodes := by
  unfold readNodes
  induction nodes with
  | nil => rfl
  | cons n rest ih => rw [List.map_cons, List.filterMap_cons, ih]

theorem tagged_subProcessSections (builder : String) (nodes : List Node) (connections : List Connection)
    (autoComplete : Bool) :
    ∀ s ∈ subProcessSections builder nodes connections autoComplete, ∀ e ∈ s.2, e.method = s.1 :=
  List.forall_mem_cons.2 ⟨tagged_single, List.forall_mem_cons.2 ⟨tagged_nodes nodes,
    List.forall_mem_singleton.2 (tagged_map (fun _ => rfl) connections)⟩⟩

theorem readNode_subProcess (tracks : Tracks visited seen) (nodes : List Node) (connections : List Connection)
    (autoComplete : Bool) :
    readNode scope NodeKind.subProcess.builderMethod info.id
        (nodeSections builder scope visited info
          (subProcessSections builder nodes connections autoComplete)).assemble =
      some (.subProcess (normalInfo seen info) nodes (connections.map normalConnection) autoComplete) := by
  obtain ⟨ordered, name, metadata, vars, done, own⟩ := readNode_opening builder scope info _ .subProcess tracks rfl
    (tagged_subProcessSections builder nodes connections autoComplete)
  generalize (nodeSections builder scope visited info
    (subProcessSections builder nodes connections autoComplete)).assemble = events at *
  have completes := own _ List.mem_cons_self
  have inner := own _ (List.mem_cons_of_mem _ List.mem_cons_self)
  have joined := own _ (List.mem_cons_of_mem _ (List.mem_cons_of_mem _ List.mem_cons_self))
  unfold readNode
  simp only [openedKind?_builderMethod, ordered, name, metadata, vars, done, completes, inner, joined, readFlag,
    readConnections, readNodes_nodes, Option.bind_eq_bind, Option.bind_some, guard, if_true]
  rfl

end Node

/-! ## What nodes record -/

theorem isCallOn_optionalCall {target method : String} {value : Option String} :
    ∀ x ∈ optionalCall target method value, x.isCallOn target = true := by
  intro x hx
  obtain ⟨s, -, rfl⟩ := List.mem_map.1 hx
  exact decide_eq_true rfl

theorem isCallOn_entryCalls {target method : String} {m : Metadata} :
    ∀ x ∈ entryCalls target method m, x.isCallOn target = true := by
  intro x hx
  obtain ⟨e, -, h⟩ := List.mem_filterMap.1 hx
  obtain ⟨value, -, rfl⟩ := Option.map_eq_some_iff.1 h
  exact decide_eq_true rfl

theorem isCallOn_variableCalls {target : String} {scope : List String} {visited : NameSet} {vs : List Variable} :
    ∀ x ∈ (variableCalls target scope visited vs).1, x.isCallOn target = true := by
  intro x hx
  obtain ⟨v, -, rfl⟩ := mem_variableCalls hx
  exact decide_eq_true rfl

theorem isCallOn_connectionStatements {target : String} {xs : List Connection} :
    ∀ x ∈ xs.map (connectionStatement target), x.isCallOn target = true := by
  intro x hx
  obtain ⟨c, -, rfl⟩ := List.mem_map.1 hx
  exact decide_eq_true rfl

theorem isCallOn_call {target method : String} {arguments : List Argument} :
    ∀ x ∈ [Statement.call target method arguments], x.isCallOn target = true := by
  intro x hx
  rw [List.mem_singleton.1 hx]
  exact decide_eq_true rfl

theorem isCallOn_append {target : String} {xs ys : List Statement} (hx : ∀ x ∈ xs, x.isCallOn target = true)
    (hy : ∀ x ∈ ys, x.isCallOn target = true) : ∀ x ∈ xs ++ ys, x.isCallOn target = true :=
  List.forall_mem_append.2 ⟨hx, hy⟩

theorem isCallOn_cons {target method : String} {arguments : List Argument} {xs : List Statement}
    (hx : ∀ x ∈ xs, x.isCallOn target = true) :
    ∀ x ∈ Statement.call target method arguments :: xs, x.isCallOn target = true :=
  List.forall_mem_cons.2 ⟨decide_eq_true rfl, hx⟩

theorem isCallOn_activityStatements (builder : String) (a : Activity) :
    ∀ x ∈ activityStatements builder a, x.isCallOn builder = true := by
  cases a with
  | start trigger => exact isCallOn_optionalCall
  | finish terminate => exact isCallOn_call
  | action dialect script => exact isCallOn_call
  | workItem workName parameters => exact isCallOn_cons isCallOn_entryCalls
  | humanTask taskName actorId groupId =>
    exact isCallOn_append (isCallOn_cons isCallOn_optionalCall) isCallOn_optionalCall
  | split gateway constraints =>
    refine isCallOn_cons fun x hx => ?_
    obtain ⟨c, -, rfl⟩ := List.mem_map.1 hx
    exact decide_eq_true rfl
  | join gateway => exact isCallOn_call
  | event eventType variableName => exact isCallOn_cons isCallOn_optionalCall
  | timer delay period => exact isCallOn_append isCallOn_optionalCall isCallOn_optionalCall
  | boundaryEvent eventType attachedTo cancelActivity => exact isCallOn_cons (isCallOn_cons isCallOn_call)

/-- the calls that every node's builder starts with -/
def openingCalls (builder : String) (scope : List String) (visited : NameSet) (info : NodeInfo) : List Statement :=
  optionalCall builder "name" info.name ++ metadataCalls builder info.metadata ++
    (variableCalls builder scope visited (info.vars.getD [])).1

theorem isCallOn_openingCalls {builder : String} {scope : List String} {visited : NameSet} {info : NodeInfo} :
    ∀ x ∈ openingCalls builder scope visited info, x.isCallOn builder = true :=
  isCallOn_append (isCallOn_append isCallOn_optionalCall isCallOn_entryCalls) isCallOn_variableCalls

theorem assemble_openingSections (builder : String) (scope : List String) (visited : NameSet) (info : NodeInfo) :
    (openingCalls builder scope visited info).map event = (openingSections builder scope visited info).assemble := by
  simp [openingCalls, openingSections, Sections.assemble]

theorem assemble_subProcessSections (builder : String) (nodes : List Node) (connections : List Connection)
    (autoComplete : Bool) :
    (subProcessSections builder nodes connections autoComplete).assemble =
      [.call "auto_complete" [.flag autoComplete]] ++
        (nodes.map .node ++ (connections.map (connectionStatement builder)).map event) := by
  simp [subProcessSections, Sections.assemble]

theorem assemble_append (xs ys : Sections) : (xs ++ ys : Sections).assemble = xs.assemble ++ ys.assemble :=
  List.flatMap_append ..

section Nodes

variable {scope : List String} {depth : Nat} {target builder : String} {visited : NameSet} {seen : List String}

theorem records_activity (named : level builder = depth + 1) (tracks : Tracks visited seen) (info : NodeInfo)
    (a : Activity) :
    Records scope depth target
      (.bind builder target a.kind.builderMethod info.id :: (openingCalls builder scope visited info ++
        activityStatements builder a ++ [doneCall builder]))
      [.node (.activity (normalInfo seen info) (normalActivity a))] := by
  have body : Records scope (depth + 1) builder
      (openingCalls builder scope visited info ++ activityStatements builder a ++ [doneCall builder])
      (nodeSections builder scope visited info (activitySections builder a)).assemble := by
    unfold nodeSections
    rw [assemble_append, assemble_append, ← assemble_openingSections, ← assemble_activitySections]
    refine Records.append named.le ?_ (records_calls isCallOn_call)
    exact Records.append named.le (records_calls isCallOn_openingCalls)
      (records_calls (isCallOn_activityStatements builder a))
  exact Records.node named body (readNode_activity tracks a)

theorem records_subProcess (named : level builder = depth + 1) (tracks : Tracks visited seen) (info : NodeInfo)
    {statements : List Statement} {nodes : List Node} (connections : List Connection) (autoComplete : Bool)
    (inner : Records scope (depth + 1) builder statements (nodes.map .node)) :
    Records scope depth target
      (.bind builder target NodeKind.subProcess.builderMethod info.id :: (openingCalls builder scope visited info ++
        .call builder "auto_complete" [.flag autoComplete] ::
          (statements ++ connections.map (connectionStatement builder)) ++ [doneCall builder]))
      [.node (.subProcess (normalInfo seen info) nodes (connections.map normalConnection) autoComplete)] := by
  have body : Records scope (depth + 1) builder
      (openingCalls builder scope visited info ++ .call builder "auto_complete" [.flag autoComplete] ::
          (statements ++ connections.map (connectionStatement builder)) ++ [doneCall builder])
      (nodeSections builder scope visited info
        (subProcessSections builder nodes connections autoComplete)).assemble := by
    unfold nodeSections
    rw [assemble_append, assemble_append, ← assemble_openingSections, assemble_subProcessSections]
    have first : Records scope (depth + 1) builder [.call builder "auto_complete" [.flag autoComplete]]
        [.call "auto_complete" [.flag autoComplete]] := records_calls isCallOn_call
    refine Records.append named.le ?_ (records_calls isCallOn_call)
    refine Records.append named.le (records_calls isCallOn_openingCalls) (first.append named.le ?_)
    exact inner.append named.le (records_calls isCallOn_connectionStatements)
  exact Records.node named body (readNode_subProcess tracks nodes connections autoComplete)

end Nodes

mutual

/-- **A node records its normal form**, whatever builder it is opened on and whatever names stand for around it. -/
theorem records_nodeStatements (scope : List String) (path : List NodeId) (target : String) {visited : NameSet}
    {seen : List String} (tracks : Tracks visited seen) (n : Node) :
    Records scope path.length target (nodeStatements scope path target visited n).1 [.node (normalNode seen n)] := by
  match n with
  | .activity info a =>
    rw [nodeStatements, normalNode]
    exact records_activity (level_builderName path a.kind info.id) tracks info a
  | .subProcess info nodes connections autoComplete =>
    have named := level_builderName path .subProcess info.id
    have deeper : (path ++ [info.id]).length = path.length + 1 := List.length_append
    have inner := records_nodesStatements scope (path ++ [info.id]) (builderName path .subProcess info.id)
      (named.trans deeper.symm).le (tracks.after (info.vars.getD [])) nodes
    rw [deeper] at inner
    rw [nodeStatements, normalNode]
    exact records_subProcess named tracks info connections autoComplete inner

/-- the nodes of a list record their normal forms in order -/
theorem records_nodesStatements (scope : List String) (path : List NodeId) (target : String)
    (deep : level target ≤ path.length) {visited : NameSet} {seen : List String} (tracks : Tracks visited seen)
    (ns : List Node) :
    Records scope path.length target (nodesStatements scope path target visited ns).1
      ((normalNodes seen ns).map .node) := by
  match ns with
  | [] =>
    rw [nodesStatements, normalNodes]
    exact records_nil
  | n :: rest =>
    have first := records_nodeStatements scope path target tracks n
    have others := records_nodesStatements scope path target deep (tracks.after (nodeVariables n)) rest
    rw [← nodeStatements_visited scope path target] at others
    rw [nodesStatements, normalNodes, List.map_cons]
    exact first.append deep others

end

/-! ## What processes record -/

/-- what is recorded on the factory, turn by turn -/
def processSections (factory : String) (scope : List String) (m : ProcessModel) (nodes : List Node) : Sections :=
  [(some "name", (optionalCall factory "name" m.name).map event),
    (some "package_name", (optionalCall factory "package_name" m.packageName).map event),
    (some "version", (optionalCall factory "version" m.version).map event),
    (some "metadata", (metadataCalls factory m.metadata).map event),
    (some "variable", (variableCalls factory scope NameSet.empty m.vars).1.map event), (none, nodes.map .node),
    (some "connection", (m.connections.map (connectionStatement factory)).map event),
    (some "validate", [.call "validate" []])]

theorem processSections_proper (factory : String) (scope : List String) (m : ProcessModel) (nodes : List Node) :
    (processSections factory scope m nodes).Proper := by
  refine ⟨?_, ?_⟩
  · refine List.forall_mem_cons.2 ⟨tagged_optionalCall, List.forall_mem_cons.2 ⟨tagged_optionalCall, ?_⟩⟩
    refine List.forall_mem_cons.2 ⟨tagged_optionalCall, List.forall_mem_cons.2 ⟨tagged_entryCalls, ?_⟩⟩
    refine List.forall_mem_cons.2 ⟨tagged_variableCalls, List.forall_mem_cons.2 ⟨tagged_nodes nodes, ?_⟩⟩
    exact List.forall_mem_cons.2 ⟨tagged_map (fun _ => rfl) m.connections, List.forall_mem_singleton.2 tagged_single⟩
  · have distinct : processProtocol.Nodup := by decide
    exact distinct

theorem readProcess_processSections (factory : String) (scope : List String) (m : ProcessModel) (nodes : List Node)
    {entries : List Entry} (read : readAll scope entries = some (processSections factory scope m nodes).assemble) :
    readProcess m.id scope entries =
      some { m with nodes, connections := m.connections.map normalConnection, vars := firstDeclarations [] m.vars
                    metadata := supported m.metadata } := by
  have proper := processSections_proper factory scope m nodes
  have ordered : inOrder processProtocol (processSections factory scope m nodes).assemble = true :=
    Sections.inOrder_assemble proper rfl
  have turns : ∀ s ∈ processSections factory scope m nodes,
      turn (processSections factory scope m nodes).assemble s.1 = s.2 := fun s hs => Sections.turn_assemble proper hs
  generalize (processSections factory scope m nodes).assemble = events at *
  simp only [processSections, List.forall_mem_cons] at turns
  obtain ⟨name, packageName, version, metadata, vars, inner, joined, valid, -⟩ := turns
  have readMeta : readMetadata ((metadataCalls factory m.metadata).map event) = some (supported m.metadata) :=
    readMetadata_entryCalls factory "metadata" m.metadata
  unfold readProcess
  simp only [read, ordered, name, packageName, version, metadata, vars, inner, joined, valid, readPlain, readMeta,
    readOptional_optionalCall, readVariables_variableCalls factory scope m.vars tracks_empty, readConnections,
    readNodes_nodes, Option.bind_eq_bind, Option.bind_some, guard, if_true]
  rfl

/-- the calls before the nodes of a process -/
def headingCalls (factory : String) (scope : List String) (m : ProcessModel) : List Statement :=
  headerCalls m factory ++ metadataCalls factory m.metadata ++ (variableCalls factory scope NameSet.empty m.vars).1

theorem isCallOn_headingCalls {factory : String} {scope : List String} {m : ProcessModel} :
    ∀ x ∈ headingCalls factory scope m, x.isCallOn factory = true := by
  have header : ∀ x ∈ headerCalls m factory, x.isCallOn factory = true :=
    isCallOn_append (isCallOn_append isCallOn_optionalCall isCallOn_optionalCall) isCallOn_optionalCall
  exact isCallOn_append (isCallOn_append header isCallOn_entryCalls) isCallOn_variableCalls

theorem assemble_processSections (factory : String) (scope : List String) (m : ProcessModel) (nodes : List Node) :
    (processSections factory scope m nodes).assemble =
      (headingCalls factory scope m).map event ++
        (nodes.map .node ++ (m.connections.map (connectionStatement factory)).map event) ++
          [.call "validate" []] := by
  simp [processSections, Sections.assemble, headingCalls, headerCalls]

/-- the statements of a process, executed on its factory, record its normal form -/
theorem records_modelStatements (m : ProcessModel) (c : Context) (outermost : c.containers = [])
    (fresh : c.visited = NameSet.empty) (onFactory : level c.target = 0) :
    Records c.scopePath 0 c.target (modelStatements c m).1
      (processSections c.target c.scopePath m (normalNodes (namedAfter [] m.vars) m.nodes)).assemble := by
  have inner := records_nodesStatements c.scopePath [] c.target onFactory.le (tracks_empty.after m.vars) m.nodes
  unfold modelStatements
  rw [outermost, fresh, assemble_processSections]
  refine Records.append onFactory.le ?_ (records_calls isCallOn_call)
  refine Records.append onFactory.le (records_calls isCallOn_headingCalls) ?_
  exact inner.append onFactory.le (records_calls isCallOn_connectionStatements)

/-- **A process that is translated** means its normal form. -/
theorem meaning_of_compile {kinds : Kinds} {m : ProcessModel} {runtime : String} {p : Program}
    (h : compile m kinds runtime = .ok p) : p.meaning = some (normalForm m) := by
  obtain rfl := compile_eq h
  have scope : (Context.ofProcess m).scopePath = [Source.identifierOf (Source.processTypeName m.id)] := by
    rw [Source.identifierOf_processTypeName]
    exact Source.pathSegments_processTypeName m.id
  have records := records_modelStatements m (Context.ofProcess m) rfl rfl level_factory
  obtain ⟨bound, entries, run, -, read⟩ := records [] id [] _ Focus.root (Recording.start_bound "factory")
  have recorded : record (modelStatements (Context.ofProcess m) m).1 (Recording.start "factory") =
      some ⟨entries, bound⟩ := run
  have process := readProcess_processSections "factory" (Context.ofProcess m).scopePath m _ read
  rw [scope] at process
  exact Option.bind_eq_some_iff.2 ⟨⟨entries, bound⟩, recorded, process⟩

end ProcessBuild.Translation
