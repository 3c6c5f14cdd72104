/-
What a step of translation comes to, told without its early exits. `Outcome step c defects a visited` says that the
step, run in the context `c`, fails with the first of the defects, or gives `a` when there is none and has declared the
variables `visited` by then. Whatever it gives, the target, the scope class, the containers and their nodes are what
they were before; only declared variables are added.

The defects of a node are all that is wrong with it, in the order in which a traversal meets them (`nodeDefects`); the
statements of a node are those it is translated to when nothing is wrong (`nodeStatements`).
- `visit_outcome`, `visitAll_outcome`: the outcome of a node and of a list of nodes, one case for each kind of step.
- `emitNodes_outcome`, `program_outcome`: the outcome of a container and of a process.
-/
import Mathlib.Data.List.TakeWhile
import Mathlib.Tactic.SplitIfs
import ProcessBuild.Proofs.Results
import ProcessBuild.Translation.Program

namespace ProcessBuild.Translation

open Builder

/-! ## Outcomes -/

/-- what a step of translation comes to in a context -/
structure Outcome {α : Type} (step : Translate α) (c : Context) (defects : List Fault) (a : α) (visited : NameSet) :
    Prop where
  grows : ∀ x ∈ c.visited, x ∈ visited
  succeeds : defects = [] → step c = (.ok a, { c with visited })
  fails : ∀ f rest, defects = f :: rest →
    ∃ v, (∀ x ∈ c.visited, x ∈ v) ∧ step c = (.error f, { c with visited := v })

section Laws

variable {α β : Type} {c : Context}

theorem Outcome.pure (c : Context) (a : α) : Outcome (Pure.pure a : Translate α) c [] a c.visited :=
  ⟨fun _ h => h, fun _ => rfl, fun _ _ h => nomatch h⟩

theorem Outcome.get (c : Context) : Outcome (MonadState.get : Translate Context) c [] c c.visited :=
  ⟨fun _ h => h, fun _ => rfl, fun _ _ h => nomatch h⟩

/-- the defects of two steps one after the other are those of the first, then those of the second -/
theorem Outcome.bind {p : Translate α} {f : α → Translate β} {d₁ d₂ : List Fault} {a : α} {b : β} {v₁ v₂ : NameSet}
    (hp : Outcome p c d₁ a v₁) (hf : Outcome (f a) { c with visited := v₁ } d₂ b v₂) :
    Outcome (p >>= f) c (d₁ ++ d₂) b v₂ := by
  refine ⟨fun x hx => hf.grows x (hp.grows x hx), fun h => ?_, fun g rest h => ?_⟩
  · obtain ⟨h₁, h₂⟩ := List.append_eq_nil_iff.1 h
    rw [bind_apply, hp.succeeds h₁]
    exact hf.succeeds h₂
  · rw [bind_apply]
    cases d₁ with
    | nil =>
      obtain ⟨v, hv, e⟩ := hf.fails g rest h
      rw [hp.succeeds rfl]
      exact ⟨v, fun x hx => hv x (hp.grows x hx), e⟩
    | cons f₁ r₁ =>
      obtain ⟨v, hv, e⟩ := hp.fails f₁ r₁ rfl
      obtain ⟨rfl, -⟩ := List.cons.inj h
      rw [e]
      exact ⟨v, hv, rfl⟩

/-- a step that looks at the context first -/
theorem Outcome.get_bind {f : Context → Translate β} {d : List Fault} {b : β} {v : NameSet} (h : Outcome (f c) c d b v) :
    Outcome (MonadState.get >>= f) c d b v :=
  (Outcome.get c).bind h

/-- a step after one that has no defect of its own -/
theorem Outcome.map {p : Translate α} {d : List Fault} {a : α} {v : NameSet} (hp : Outcome p c d a v) (f : α → β) :
    Outcome (p >>= fun a => Pure.pure (f a)) c d (f a) v := by
  have h := hp.bind (f := fun a => Pure.pure (f a)) (Outcome.pure { c with visited := v } (f a))
  rwa [List.append_nil] at h

theorem Outcome.among {step : Translate α} {ids : List NodeId} {d : List Fault} {a : α} {v : NameSet}
    (h : Outcome step (c.enter ids) d a v) : Outcome (Translation.among ids step) c d a v := by
  refine ⟨h.grows, fun hd => ?_, fun f rest hd => ?_⟩
  · simp only [Translation.among, h.succeeds hd]
    rfl
  · obtain ⟨w, hw, e⟩ := h.fails f rest hd
    refine ⟨w, hw, ?_⟩
    simp only [Translation.among, e]
    rfl

theorem Outcome.within {step : Translate α} {id : NodeId} {target : String} {d : List Fault} {a : α} {v : NameSet}
    (h : Outcome step { c with target, containers := c.containers ++ [id] } d a v) :
    Outcome (Translation.within id target step) c d a v := by
  refine ⟨h.grows, fun hd => ?_, fun f rest hd => ?_⟩
  · simp only [Translation.within, h.succeeds hd, List.dropLast_concat]
  · obtain ⟨w, hw, e⟩ := h.fails f rest hd
    exact ⟨w, hw, by simp only [Translation.within, e, List.dropLast_concat]⟩

end Laws

/-! ## Defects -/

/-- where nodes stand: the sub-processes around them, the outermost first, and the nodes declared beside them -/
structure Position where
  path : List NodeId
  siblings : List NodeId

namespace Position

/-- the place inside a sub-process with some nodes -/
def inside (pos : Position) (id : NodeId) (nodes : List Node) : Position :=
  ⟨pos.path ++ [id], nodes.map Node.id⟩

/-- the fault of a node here: its number after those of the sub-processes around it, with colons between them -/
def fault (pos : Position) (id : NodeId) (kind : Option NodeKind) (reason : Reason) : Fault :=
  ⟨String.intercalate ":" ((pos.path ++ [id]).map toString), kind, reason⟩

end Position

/-- a name that is blank after trimming is a defect -/
def blankDefects (value : String) (reason : Reason) : List Reason :=
  if Text.trim value.toList = [] then [reason] else []

/-- the branches of a split to nodes that are not beside it are defects, in order -/
def constraintDefects (siblings : List NodeId) (xs : List Constraint) : List Reason :=
  (xs.filter fun x => !siblings.contains x.target).map fun x => .unknownConstraintTarget x.target

/-- the name that an activity must carry, and what is wrong when it is blank -/
def requiredName : Activity → Option (String × Reason)
  | .workItem workName _ => some (workName, .emptyWorkName)
  | .humanTask taskName _ _ => some (taskName, .emptyTaskName)
  | .event eventType _ => some (eventType, .emptyEventType)
  | .boundaryEvent eventType _ _ => some (eventType, .emptyEventType)
  | _ => none

def branches : Activity → List Constraint
  | .split _ constraints => constraints
  | _ => []

/-- what is wrong with an activity whose kind can be translated -/
def activityDefects (siblings : List NodeId) (a : Activity) : List Reason :=
  (requiredName a).toList.flatMap (fun name => blankDefects name.1 name.2) ++ constraintDefects siblings (branches a)

/-- a kind that cannot be translated is a defect of its nodes -/
def kindDefects (kinds : Kinds) (pos : Position) (id : NodeId) (kind : NodeKind) : List Fault :=
  if kind ∈ kinds.registered then [] else [pos.fault id (some kind) .unregistered]

/-- the id of a connection, or its two ends with a dash between them -/
def connectionId (x : Connection) : String := x.id.getD (toString x.source ++ "-" ++ toString x.target)

theorem uniqueId_eq_connectionId (x : Connection) : x.uniqueId = connectionId x := by
  unfold Connection.uniqueId connectionId
  cases x.id <;> rfl

/-- the ends of a connection that are not declared in its container are defects, its source first -/
def connectionDefects (pos : Position) (x : Connection) : List Fault :=
  ([x.source, x.target].filter fun id => !pos.siblings.contains id).map fun id =>
    pos.fault id none (.unknownConnectionEndpoint (connectionId x))

mutual

/-- all that is wrong with a node, in the order in which a traversal meets it -/
def nodeDefects (kinds : Kinds) (pos : Position) : Node → List Fault
  | .activity info a =>
    kindDefects kinds pos info.id a.kind ++ (activityDefects pos.siblings a).map (pos.fault info.id (some a.kind))
  | .subProcess info nodes connections _ =>
    kindDefects kinds pos info.id .subProcess ++
      (nodesDefects kinds (pos.inside info.id nodes) nodes ++
        connections.flatMap (connectionDefects (pos.inside info.id nodes)))

/-- all that is wrong with the nodes of a list -/
def nodesDefects (kinds : Kinds) (pos : Position) : List Node → List Fault
  | [] => []
  | n :: rest => nodeDefects kinds pos n ++ nodesDefects kinds pos rest

end

/-! ## Statements -/

/-- the name that the builder of a node is bound to -/
def builderName (path : List NodeId) (kind : NodeKind) (id : NodeId) : String :=
  Source.identifierOf (String.intercalate "_" (kind.builderMethod :: (path ++ [id]).map toString))

def constraintStatement (builder : String) (x : Constraint) : Statement :=
  .call builder "constraint"
    [.node x.target, .optionalText x.name, .text x.dialect, .text x.expression, .int32 x.priority]

def connectionStatement (target : String) (x : Connection) : Statement :=
  .call target "connection" [.node x.source, .node x.target, .text (connectionId x)]

/-- the calls that an activity makes on its own builder -/
def activityStatements (builder : String) : Activity → List Statement
  | .start trigger => optionalCall builder "trigger" trigger
  | .finish terminate => [.call builder "terminate" [.flag terminate]]
  | .action dialect script => [.call builder "action" [.text dialect, .text script]]
  | .workItem workName parameters =>
    .call builder "work_name" [.text workName] :: entryCalls builder "work_parameter" parameters
  | .humanTask taskName actorId groupId =>
    .call builder "task_name" [.text taskName] ::
      optionalCall builder "actor_id" actorId ++ optionalCall builder "group_id" groupId
  | .split gateway constraints =>
    .call builder "split_type" [.gateway gateway] :: constraints.map (constraintStatement builder)
  | .join gateway => [.call builder "join_type" [.gateway gateway]]
  | .event eventType variableName =>
    .call builder "event_type" [.text eventType] :: optionalCall builder "variable_name" variableName
  | .timer delay period => optionalCall builder "delay" delay ++ optionalCall builder "period" period
  | .boundaryEvent eventType attachedTo cancelActivity =>
    [.call builder "event_type" [.text eventType], .call builder "attached_to" [.text attachedTo],
      .call builder "cancel_activity" [.flag cancelActivity]]

/-- the statements at the front of a node's own: its builder is opened and given what every kind of node carries -/
def openingStatements (scope : List String) (path : List NodeId) (target : String) (visited : NameSet)
    (info : NodeInfo) (kind : NodeKind) : List Statement :=
  let builder := builderName path kind info.id
  .bind builder target kind.builderMethod info.id :: optionalCall builder "name" info.name ++
    metadataCalls builder info.metadata ++ (variableCalls builder scope visited (info.vars.getD [])).1

/-- the variables declared once the scope of a node is -/
def visitedAfter (visited : NameSet) (vs : List Variable) : NameSet := (variableCalls "" [] visited vs).2

mutual

/-- the statements of a node with nothing wrong, and the variables declared after them -/
def nodeStatements (scope : List String) (path : List NodeId) (target : String) (visited : NameSet) :
    Node → List Statement × NameSet
  | .activity info a =>
    let builder := builderName path a.kind info.id
    (openingStatements scope path target visited info a.kind ++ activityStatements builder a ++ [doneCall builder],
      visitedAfter visited (info.vars.getD []))
  | .subProcess info nodes connections autoComplete =>
    let builder := builderName path .subProcess info.id
    let inner := nodesStatements scope (path ++ [info.id]) builder (visitedAfter visited (info.vars.getD [])) nodes
    (openingStatements scope path target visited info .subProcess ++ .call builder "auto_complete" [.flag autoComplete] ::
      (inner.1 ++ connections.map (connectionStatement builder)) ++ [doneCall builder], inner.2)

/-- the statements of the nodes of a list with nothing wrong, and the variables declared after them -/
def nodesStatements (scope : List String) (path : List NodeId) (target : String) (visited : NameSet) :
    List Node → List Statement × NameSet
  | [] => ([], visited)
  | n :: rest =>
    let first := nodeStatements scope path target visited n
    let others := nodesStatements scope path target first.2 rest
    (first.1 ++ others.1, others.2)

end

/-! ## Declared variables -/

mutual

/-- the variables of the scopes of a node, its own before those inside it -/
def nodeVariables : Node → List Variable
  | .activity info _ => info.vars.getD []
  | .subProcess info nodes _ _ => info.vars.getD [] ++ nodesVariables nodes

def nodesVariables : List Node → List Variable
  | [] => []
  | n :: rest => nodeVariables n ++ nodesVariables rest

end

/-- the variables of the scopes of a process, each scope before those inside it -/
def modelVariables (m : ProcessModel) : List Variable := m.vars ++ nodesVariables m.nodes

/-- which variables a scope leaves undeclared does not hang on the builder that it declares them on -/
theorem variableCalls_visited (target : String) (scope : List String) (visited : NameSet) (vs : List Variable) :
    (variableCalls target scope visited vs).2 = visitedAfter visited vs := by
  induction vs generalizing visited with
  | nil => rfl
  | cons v rest ih =>
    unfold visitedAfter
    simp only [variableCalls]
    split
    · exact ih visited
    · exact ih (visited.insert v.name)

theorem visitedAfter_cons (visited : NameSet) (v : Variable) (vs : List Variable) :
    visitedAfter visited (v :: vs) = visitedAfter (visited.insert v.name) vs := by
  unfold visitedAfter
  rw [variableCalls]
  split_ifs with h
  · rw [NameSet.insert_of_mem (NameSet.contains_iff.1 h)]
  · rfl

theorem mem_visitedAfter {visited : NameSet} {vs : List Variable} {name : String} :
    name ∈ visitedAfter visited vs ↔ name ∈ visited ∨ ∃ v ∈ vs, v.name = name := by
  induction vs generalizing visited with
  | nil => simp [visitedAfter, variableCalls]
  | cons v rest ih =>
    rw [visitedAfter_cons, ih, NameSet.mem_insert, or_assoc, or_left_comm]
    simp [eq_comm]

theorem visitedAfter_append (visited : NameSet) (vs ws : List Variable) :
    visitedAfter visited (vs ++ ws) = visitedAfter (visitedAfter visited vs) ws := by
  induction vs generalizing visited with
  | nil => rfl
  | cons v rest ih => rw [List.cons_append, visitedAfter_cons, ih, ← visitedAfter_cons]

mutual

theorem nodeStatements_visited (scope : List String) (path : List NodeId) (target : String) (visited : NameSet)
    (n : Node) : (nodeStatements scope path target visited n).2 = visitedAfter visited (nodeVariables n) := by
  match n with
  | .activity info a => rw [nodeStatements, nodeVariables]
  | .subProcess info nodes connections autoComplete =>
    rw [nodeStatements, nodeVariables, visitedAfter_append]
    exact nodesStatements_visited _ _ _ _ nodes

theorem nodesStatements_visited (scope : List String) (path : List NodeId) (target : String) (visited : NameSet)
    (ns : List Node) : (nodesStatements scope path target visited ns).2 = visitedAfter visited (nodesVariables ns) := by
  match ns with
  | [] => rfl
  | n :: rest =>
    rw [nodesStatements, nodesVariables, visitedAfter_append, ← nodeStatements_visited scope path target visited n]
    exact nodesStatements_visited _ _ _ _ rest

end

/-! ## The outcome of each step -/

/-- where the nodes of the innermost container stand -/
def Context.position (c : Context) : Position := ⟨c.containers, c.siblings.headD []⟩

theorem isSibling_eq (c : Context) (id : NodeId) : c.isSibling id = c.position.siblings.contains id := by
  unfold Context.isSibling Context.position
  cases c.siblings with
  | nil => rfl
  | cons ids rest => rfl

theorem isBlankText_iff (s : String) : Text.isBlankText s = true ↔ Text.trim s.toList = [] := by
  refine ⟨Text.trim_eq_nil_of_all s.toList, fun h => ?_⟩
  have blank : ∀ x ∈ Text.trimStart s.toList, Text.isBlank x = true := by
    have h' := List.dropWhile_eq_nil_iff.1 (List.reverse_eq_nil_iff.1 h)
    simpa using h'
  -- the first character that is left after the leading blanks is none of them
  cases e : Text.trimStart s.toList with
  | nil => exact List.all_eq_true.2 (List.dropWhile_eq_nil_iff.1 e)
  | cons c r =>
    have hc : Text.isBlank c = false := by
      have first := List.head?_dropWhile_not Text.isBlank s.toList
      rw [show s.toList.dropWhile Text.isBlank = c :: r from e] at first
      simpa using first
    have := blank c (e ▸ List.mem_cons_self)
    rw [hc] at this
    cases this

theorem failAt_outcome {α : Type} (c : Context) (id : NodeId) (kind : Option NodeKind) (reason : Reason)
    (others : List Fault) (a : α) :
    Outcome (failAt id kind reason) c (c.position.fault id kind reason :: others) a c.visited := by
  refine ⟨fun _ h => h, fun h => (nomatch h), fun f rest h => ⟨c.visited, fun _ hx => hx, ?_⟩⟩
  obtain ⟨rfl, -⟩ := List.cons.inj h
  rfl

theorem requireText_outcome (c : Context) (info : NodeInfo) (kind : NodeKind) (value : String) (reason : Reason) :
    Outcome (requireText info kind value reason) c
      ((blankDefects value reason).map (c.position.fault info.id (some kind))) () c.visited := by
  unfold requireText blankDefects
  by_cases h : Text.trim value.toList = []
  · rw [if_pos ((isBlankText_iff value).2 h), if_pos h]
    exact failAt_outcome c info.id (some kind) reason [] ()
  · rw [if_neg (mt (isBlankText_iff value).1 h), if_neg h]
    exact Outcome.pure c ()

theorem constraintCall_outcome (c : Context) (info : NodeInfo) (builder : String) (x : Constraint) :
    Outcome (constraintCall info builder x) c
      ((constraintDefects c.position.siblings [x]).map (c.position.fault info.id (some .split)))
      (constraintStatement builder x) c.visited := by
  unfold constraintCall
  apply Outcome.get_bind
  rw [isSibling_eq]
  by_cases h : x.target ∈ c.position.siblings
  · simpa [constraintDefects, constraintStatement, h] using Outcome.pure c (constraintStatement builder x)
  · simpa [constraintDefects, h] using failAt_outcome c info.id (some .split) (.unknownConstraintTarget x.target) [] _

theorem constraintCalls_outcome (c : Context) (info : NodeInfo) (builder : String) (xs : List Constraint) :
    Outcome (constraintCalls info builder xs) c
      ((constraintDefects c.position.siblings xs).map (c.position.fault info.id (some .split)))
      (xs.map (constraintStatement builder)) c.visited := by
  induction xs with
  | nil => exact Outcome.pure c []
  | cons x rest ih =>
    have split : constraintDefects c.position.siblings (x :: rest) =
        constraintDefects c.position.siblings [x] ++ constraintDefects c.position.siblings rest := by
      simp only [constraintDefects, ← List.map_append, ← List.filter_append, List.singleton_append]
    rw [constraintCalls, split, List.map_append]
    exact (constraintCall_outcome c info builder x).bind (ih.map _)

theorem connectionCall_outcome (c : Context) (x : Connection) :
    Outcome (connectionCall x) c (connectionDefects c.position x) (connectionStatement c.target x) c.visited := by
  unfold connectionCall connectionDefects
  apply Outcome.get_bind
  rw [isSibling_eq, isSibling_eq, uniqueId_eq_connectionId]
  by_cases hs : x.source ∈ c.position.siblings
  · by_cases ht : x.target ∈ c.position.siblings
    · simpa [hs, ht, connectionStatement] using Outcome.pure c (connectionStatement c.target x)
    · simpa [hs, ht] using failAt_outcome c x.target none (.unknownConnectionEndpoint (connectionId x)) [] _
  · simpa [hs] using failAt_outcome c x.source none (.unknownConnectionEndpoint (connectionId x)) _ _

theorem connectionCalls_outcome (c : Context) (xs : List Connection) :
    Outcome (connectionCalls xs) c (xs.flatMap (connectionDefects c.position)) (xs.map (connectionStatement c.target))
      c.visited := by
  induction xs with
  | nil => exact Outcome.pure c []
  | cons x rest ih =>
    rw [connectionCalls, List.flatMap_cons]
    exact (connectionCall_outcome c x).bind (ih.map _)

theorem activityDefects_of_requiredName {siblings : List NodeId} {a : Activity} {name : String} {reason : Reason}
    (required : requiredName a = some (name, reason)) (straight : branches a = []) :
    activityDefects siblings a = blankDefects name reason := by
  unfold activityDefects
  rw [required, straight]
  simp [constraintDefects]

theorem activityCalls_outcome (c : Context) (info : NodeInfo) (builder : String) (a : Activity) :
    Outcome (activityCalls info builder a) c
      ((activityDefects c.position.siblings a).map (c.position.fault info.id (some a.kind)))
      (activityStatements builder a) c.visited := by
  cases a with
  | start trigger => exact Outcome.pure c _
  | finish terminate => exact Outcome.pure c _
  | action dialect script => exact Outcome.pure c _
  | workItem workName parameters =>
    rw [activityDefects_of_requiredName rfl rfl]
    exact (requireText_outcome c info .workItem workName .emptyWorkName).map _
  | humanTask taskName actorId groupId =>
    rw [activityDefects_of_requiredName rfl rfl]
    exact (requireText_outcome c info .humanTask taskName .emptyTaskName).map _
  | split gateway constraints => exact (constraintCalls_outcome c info builder constraints).map _
  | join gateway => exact Outcome.pure c _
  | event eventType variableName =>
    rw [activityDefects_of_requiredName rfl rfl]
    exact (requireText_outcome c info .event eventType .emptyEventType).map _
  | timer delay period => exact Outcome.pure c _
  | boundaryEvent eventType attachedTo cancelActivity =>
    rw [activityDefects_of_requiredName rfl rfl]
    exact (requireText_outcome c info .boundaryEvent eventType .emptyEventType).map _

theorem declareVariables_outcome (c : Context) (target : String) (vs : List Variable) :
    Outcome (declareVariables target vs) c [] (variableCalls target c.scopePath c.visited vs).1
      (visitedAfter c.visited vs) := by
  refine ⟨fun x hx => mem_visitedAfter.2 (Or.inl hx), fun _ => ?_, fun f rest h => (nomatch h)⟩
  rw [← variableCalls_visited target c.scopePath]
  rfl

theorem openNode_outcome (kinds : Kinds) (c : Context) (info : NodeInfo) (kind : NodeKind) :
    Outcome (openNode kinds info kind) c (kindDefects kinds c.position info.id kind)
      (builderName c.containers kind info.id,
        openingStatements c.scopePath c.containers c.target c.visited info kind)
      (visitedAfter c.visited (info.vars.getD [])) := by
  have has : kinds.has kind = true ↔ kind ∈ kinds.registered := List.contains_iff_mem
  unfold openNode kindDefects
  by_cases registered : kind ∈ kinds.registered
  · rw [if_pos registered, has.2 registered]
    apply Outcome.get_bind
    exact (declareVariables_outcome c (builderName c.containers kind info.id) (info.vars.getD [])).map _
  · rw [if_neg registered, Bool.eq_false_iff.2 (mt has.1 registered)]
    refine (failAt_outcome c info.id (some kind) .unregistered [] PUnit.unit).bind (Outcome.get_bind ?_)
    exact (declareVariables_outcome c (builderName c.containers kind info.id) (info.vars.getD [])).map _

mutual

/-- **The outcome of a node.** It fails with the first of the node's defects; with none it gives the statements of the
node and declares the variables of its scope, then those of the nodes inside it. -/
theorem visit_outcome (kinds : Kinds) (c : Context) (n : Node) :
    Outcome (visit kinds n) c (nodeDefects kinds c.position n)
      (nodeStatements c.scopePath c.containers c.target c.visited n).1
      (nodeStatements c.scopePath c.containers c.target c.visited n).2 := by
  match n with
  | .activity info a =>
    rw [visit, nodeDefects, nodeStatements]
    exact (openNode_outcome kinds c info a.kind).bind ((activityCalls_outcome _ info _ a).map _)
  | .subProcess info nodes connections autoComplete =>
    rw [visit, nodeDefects, nodeStatements]
    refine (openNode_outcome kinds c info .subProcess).bind (Outcome.map (Outcome.within (Outcome.among ?_)) _)
    exact (visitAll_outcome kinds _ nodes).bind ((connectionCalls_outcome _ connections).map _)

theorem visitAll_outcome (kinds : Kinds) (c : Context) (ns : List Node) :
    Outcome (visitAll kinds ns) c (nodesDefects kinds c.position ns)
      (nodesStatements c.scopePath c.containers c.target c.visited ns).1
      (nodesStatements c.scopePath c.containers c.target c.visited ns).2 := by
  match ns with
  | [] =>
    rw [visitAll, nodesDefects, nodesStatements]
    exact Outcome.pure c []
  | n :: rest =>
    rw [visitAll, nodesDefects, nodesStatements]
    exact (visit_outcome kinds c n).bind ((visitAll_outcome kinds _ rest).map _)

end

/-! ## Processes -/

/-- where the nodes of a process stand -/
def rootPosition (m : ProcessModel) : Position := ⟨[], m.nodes.map Node.id⟩

/-- all that is wrong with a process, in the order in which a traversal meets it -/
def modelDefects (kinds : Kinds) (m : ProcessModel) : List Fault :=
  nodesDefects kinds (rootPosition m) m.nodes ++ m.connections.flatMap (connectionDefects (rootPosition m))

/-- the statements of a process with nothing wrong, in the context that its translation starts in, and the variables
declared after them -/
def modelStatements (c : Context) (m : ProcessModel) : List Statement × NameSet :=
  let inner := nodesStatements c.scopePath c.containers c.target (visitedAfter c.visited m.vars) m.nodes
  (headerCalls m c.target ++ metadataCalls c.target m.metadata ++
    (variableCalls c.target c.scopePath c.visited m.vars).1 ++
    (inner.1 ++ m.connections.map (connectionStatement c.target)) ++ [.call c.target "validate" []], inner.2)

/-- the variables declared after a process are those of its scopes -/
theorem mem_modelStatements {c : Context} {m : ProcessModel} {name : String} :
    name ∈ (modelStatements c m).2 ↔ name ∈ c.visited ∨ ∃ v ∈ modelVariables m, v.name = name := by
  have all : (modelStatements c m).2 = visitedAfter c.visited (modelVariables m) := by
    unfold modelVariables
    rw [visitedAfter_append]
    exact nodesStatements_visited _ _ _ _ m.nodes
  rw [all, mem_visitedAfter]

theorem emitNodes_outcome (kinds : Kinds) (c : Context) (nodes : List Node) (connections : List Connection) :
    Outcome (emitNodes kinds nodes connections) c
      (nodesDefects kinds ⟨c.containers, nodes.map Node.id⟩ nodes ++
        connections.flatMap (connectionDefects ⟨c.containers, nodes.map Node.id⟩))
      ((nodesStatements c.scopePath c.containers c.target c.visited nodes).1 ++
        connections.map (connectionStatement c.target))
      (nodesStatements c.scopePath c.containers c.target c.visited nodes).2 := by
  refine Outcome.among ?_
  exact (visitAll_outcome kinds _ nodes).bind ((connectionCalls_outcome _ connections).map _)

theorem program_outcome (kinds : Kinds) (m : ProcessModel) (runtime : String) (c : Context) (hc : c.containers = []) :
    Outcome (program kinds m runtime) c (modelDefects kinds m)
      { runtime := Source.identifierOf runtime, typeName := Source.identifierOf c.scopeClass, processId := m.id
        factory := c.target, statements := (modelStatements c m).1 }
      (modelStatements c m).2 := by
  have root : modelDefects kinds m = [] ++ (nodesDefects kinds ⟨c.containers, m.nodes.map Node.id⟩ m.nodes ++
      m.connections.flatMap (connectionDefects ⟨c.containers, m.nodes.map Node.id⟩)) := by
    rw [hc]
    rfl
  rw [root]
  unfold program
  apply Outcome.get_bind
  exact (declareVariables_outcome c c.target m.vars).bind ((emitNodes_outcome kinds _ m.nodes m.connections).map _)

/-- **A process that is translated** has the statements of its parts in its file. -/
theorem compile_eq {kinds : Kinds} {m : ProcessModel} {runtime : String} {p : Program}
    (h : compile m kinds runtime = .ok p) :
    p = { runtime := Source.identifierOf runtime, typeName := Source.identifierOf (Source.processTypeName m.id),
          processId := m.id, factory := "factory", statements := (modelStatements (Context.ofProcess m) m).1 } := by
  have outcome := program_outcome kinds m runtime (Context.ofProcess m) rfl
  cases defects : modelDefects kinds m with
  | cons f rest =>
    obtain ⟨visited, -, run⟩ := outcome.fails f rest defects
    have fault : compile m kinds runtime = .error f := congrArg Prod.fst run
    rw [fault] at h
    cases h
  | nil =>
    have ok : compile m kinds runtime = .ok _ := congrArg Prod.fst (outcome.succeeds defects)
    exact Except.ok.inj (h.symm.trans ok)

end ProcessBuild.Translation
