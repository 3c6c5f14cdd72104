/-
How the context is threaded through a translation. A step may enter containers and fail inside them, at any depth; when
it ends, the target, the scope class, the containers and their nodes are what they were, and only declared variables are
added. Variables are told by their declarations, each with the builder of the node that owns it, in the order in which a
traversal meets them: the scope of a node comes before those of the nodes inside it.
- `freshDeclarations`: the declarations that are made once some names are taken, of each name the first.
- `declaring_nodeStatements`: the calls of a node that declare variables are those of its fresh declarations.
- `visit_threads`: what visiting a node and emitting a container do to the context, and which variables they declare.
-/
import ProcessBuild.Proofs.Translation.BuilderName

namespace ProcessBuild.Translation

open Builder

/-! ## Declarations -/

/-- a variable with the builder of the node that owns it -/
structure Declaration where
  builder : String
  var : Variable
  deriving DecidableEq

namespace Declaration

def name (d : Declaration) : String := d.var.name

/-- the call of a declaration: the variable's name, its type as resolved by the scope class, and its tags under their key -/
def statement (scope : List String) (d : Declaration) : Statement :=
  .call d.builder "variable"
    [.text d.var.name, .dataType d.var.typeName scope, .text "customTags", .optionalText d.var.tags]

end Declaration

/-- the name of the builder of a node: the method that opens it and the numbers on the way to the node -/
def ownerName (path : List NodeId) (kind : NodeKind) (id : NodeId) : String :=
  String.intercalate "_" (kind.builderMethod :: (path ++ [id]).map toString)

def scopeDeclarations (builder : String) (info : NodeInfo) : List Declaration :=
  (info.vars.getD []).map fun v => ⟨builder, v⟩

mutual

/-- the declarations of a node, those of its own scope before those inside it -/
def nodeDeclarations (path : List NodeId) : Node → List Declaration
  | .activity info a => scopeDeclarations (ownerName path a.kind info.id) info
  | .subProcess info nodes _ _ =>
    scopeDeclarations (ownerName path .subProcess info.id) info ++ nodesDeclarations (path ++ [info.id]) nodes

def nodesDeclarations (path : List NodeId) : List Node → List Declaration
  | [] => []
  | n :: rest => nodeDeclarations path n ++ nodesDeclarations path rest

end

theorem builderName_eq (path : List NodeId) (kind : NodeKind) (id : NodeId) :
    builderName path kind id = ownerName path kind id := by
  apply String.toList_inj.1
  rw [toList_builderName, ownerName, toList_intercalate_trail]

theorem vars_scopeDeclarations (builder : String) (info : NodeInfo) :
    (scopeDeclarations builder info).map Declaration.var = info.vars.getD [] := by
  rw [scopeDeclarations, List.map_map]
  exact List.map_id' _

mutual

theorem vars_nodeDeclarations (path : List NodeId) (n : Node) :
    (nodeDeclarations path n).map Declaration.var = nodeVariables n := by
  match n with
  | .activity info a =>
    rw [nodeDeclarations, nodeVariables]
    exact vars_scopeDeclarations _ info
  | .subProcess info nodes connections autoComplete =>
    rw [nodeDeclarations, nodeVariables, List.map_append, vars_scopeDeclarations]
    exact congrArg _ (vars_nodesDeclarations _ nodes)

theorem vars_nodesDeclarations (path : List NodeId) (ns : List Node) :
    (nodesDeclarations path ns).map Declaration.var = nodesVariables ns := by
  match ns with
  | [] => rfl
  | n :: rest =>
    rw [nodesDeclarations, nodesVariables, List.map_append, vars_nodeDeclarations path n]
    exact congrArg _ (vars_nodesDeclarations _ rest)

end

/-! ## First occurrences -/

/-- the declarations that are made once some names are taken: of each other name the first -/
def freshDeclarations (taken : NameSet) (ds : List Declaration) : List Declaration :=
  (ds.filter fun d => !taken.contains d.name).eraseDupsBy fun a b => a.name = b.name

/-- a declaration whose name is taken is passed over -/
theorem freshDeclarations_of_taken {taken : NameSet} {d : Declaration} (h : d.name ∈ taken) (rest : List Declaration) :
    freshDeclarations taken (d :: rest) = freshDeclarations taken rest := by
  unfold freshDeclarations
  rw [List.filter_cons_of_neg (by simpa using h)]

/-- a declaration whose name is not taken is made, and takes it -/
theorem freshDeclarations_of_free {taken : NameSet} {d : Declaration} (h : d.name ∉ taken) (rest : List Declaration) :
    freshDeclarations taken (d :: rest) = d :: freshDeclarations (taken.insert d.name) rest := by
  have others : (rest.filter fun e => !taken.contains e.name).filter
      (fun e => decide (decide (e.name = d.name) = false)) = rest.filter fun e => !(taken.insert d.name).contains e.name := by
    rw [List.filter_filter]
    refine List.filter_congr fun e _ => ?_
    rw [Bool.eq_iff_iff]
    simp only [Bool.and_eq_true, decide_eq_true_eq, Bool.not_eq_true', ← Bool.not_eq_true, NameSet.contains_iff,
      NameSet.mem_insert, not_or]
  have kept : ((d :: rest).filter fun e => !taken.contains e.name) = d :: rest.filter fun e => !taken.contains e.name := by
    refine List.filter_cons_of_pos ?_
    rw [Bool.not_eq_true', ← Bool.not_eq_true, NameSet.contains_iff]
    exact h
  unfold freshDeclarations
  rw [kept, List.eraseDupsBy_cons, others]

/-- **Declarations in a row**: those made first take their names before the others. -/
theorem freshDeclarations_append (taken : NameSet) (ds es : List Declaration) :
    freshDeclarations taken (ds ++ es) =
      freshDeclarations taken ds ++ freshDeclarations (visitedAfter taken (ds.map Declaration.var)) es := by
  induction ds generalizing taken with
  | nil => rfl
  | cons d rest ih =>
    rw [List.cons_append, List.map_cons, visitedAfter_cons]
    by_cases h : d.name ∈ taken
    · have same : taken.insert d.var.name = taken := NameSet.insert_of_mem h
      rw [freshDeclarations_of_taken h, freshDeclarations_of_taken h, ih, same]
    · rw [freshDeclarations_of_free h, freshDeclarations_of_free h, ih]
      rfl

theorem variableCalls_eq (builder : String) (scope : List String) (visited : NameSet) (vs : List Variable) :
    (variableCalls builder scope visited vs).1 =
      (freshDeclarations visited (vs.map fun v => ⟨builder, v⟩)).map (Declaration.statement scope) := by
  induction vs generalizing visited with
  | nil => rfl
  | cons v rest ih =>
    rw [variableCalls, List.map_cons]
    by_cases h : v.name ∈ visited
    · rw [if_pos (NameSet.contains_iff.2 h), ih, freshDeclarations_of_taken h]
    · rw [if_neg (mt NameSet.contains_iff.1 h), freshDeclarations_of_free h, List.map_cons]
      exact congrArg _ (ih _)

/-! ## Calls that declare -/

def declares : Statement → Bool
  | .bind .. => false
  | .call _ method _ => method = "variable"

/-- the statements that declare variables, in order -/
def declaring (statements : List Statement) : List Statement := statements.filter declares

@[simp] theorem declaring_nil : declaring [] = [] := rfl

@[simp] theorem declaring_append (xs ys : List Statement) : declaring (xs ++ ys) = declaring xs ++ declaring ys :=
  List.filter_append ..

@[simp] theorem declaring_bind (name target method : String) (id : NodeId) (rest : List Statement) :
    declaring (.bind name target method id :: rest) = declaring rest := rfl

theorem declaring_call {target method : String} {arguments : List Argument} (other : method ≠ "variable")
    (rest : List Statement) : declaring (.call target method arguments :: rest) = declaring rest :=
  List.filter_cons_of_neg (by simpa [declares] using other)

/-- calls of another method declare nothing -/
theorem declaring_map {α : Type} {f : α → Statement} (h : ∀ x, declares (f x) = false) (xs : List α) :
    declaring (xs.map f) = [] := by
  refine List.filter_eq_nil_iff.2 (List.forall_mem_map.2 fun x _ => ?_)
  rw [h x]
  exact Bool.false_ne_true

theorem declaring_optionalCall {target method : String} (other : method ≠ "variable") (value : Option String) :
    declaring (optionalCall target method value) = [] :=
  @declaring_map _ (fun s => .call target method [.text s]) (fun _ => decide_eq_false other) value.toList

theorem declaring_entryCalls {target method : String} (other : method ≠ "variable") (m : Metadata) :
    declaring (entryCalls target method m) = [] := by
  refine List.filter_eq_nil_iff.2 fun x isCall => ?_
  obtain ⟨e, -, carried⟩ := List.mem_filterMap.1 isCall
  obtain ⟨value, -, rfl⟩ := Option.map_eq_some_iff.1 carried
  simpa [declares] using other

/-- the calls of fresh declarations all declare -/
theorem declaring_statements (scope : List String) (ds : List Declaration) :
    declaring (ds.map (Declaration.statement scope)) = ds.map (Declaration.statement scope) :=
  List.filter_eq_self.2 (List.forall_mem_map.2 fun _ _ => rfl)

/-- no kind of activity declares variables by the calls of its own -/
theorem declaring_activityStatements (builder : String) (a : Activity) : declaring (activityStatements builder a) = [] := by
  cases a with
  | start trigger => exact declaring_optionalCall (by decide) trigger
  | finish terminate => rfl
  | action dialect script => rfl
  | workItem workName parameters => exact declaring_entryCalls (by decide) parameters
  | humanTask taskName actorId groupId =>
    rw [activityStatements, declaring_append, declaring_call (by decide), declaring_optionalCall (by decide),
      declaring_optionalCall (by decide), List.append_nil]
  | split gateway constraints => exact declaring_map (fun _ => rfl) constraints
  | join gateway => rfl
  | event eventType variableName => exact declaring_optionalCall (by decide) variableName
  | timer delay period =>
    rw [activityStatements, declaring_append, declaring_optionalCall (by decide), declaring_optionalCall (by decide),
      List.append_nil]
  | boundaryEvent eventType attachedTo cancelActivity => rfl

/-- what opens the builder of a node declares the fresh variables of its scope -/
theorem declaring_openingStatements (scope : List String) (path : List NodeId) (target : String) (visited : NameSet)
    (info : NodeInfo) (kind : NodeKind) :
    declaring (openingStatements scope path target visited info kind) =
      (freshDeclarations visited (scopeDeclarations (ownerName path kind info.id) info)).map
        (Declaration.statement scope) := by
  unfold openingStatements metadataCalls
  dsimp only
  rw [variableCalls_eq, builderName_eq, List.cons_append, List.cons_append, declaring_bind, declaring_append, declaring_append,
    declaring_optionalCall (by decide), declaring_entryCalls (by decide), declaring_statements]
  rfl

mutual

/-- **The variables that a node declares** are those of its fresh declarations, each on the builder of its owner. -/
theorem declaring_nodeStatements (scope : List String) (path : List NodeId) (target : String) (visited : NameSet)
    (n : Node) : declaring (nodeStatements scope path target visited n).1 =
      (freshDeclarations visited (nodeDeclarations path n)).map (Declaration.statement scope) := by
  match n with
  | .activity info a =>
    rw [nodeStatements, nodeDeclarations, declaring_append, declaring_append, declaring_openingStatements,
      declaring_activityStatements, doneCall, declaring_call (by decide), declaring_nil, List.append_nil, List.append_nil]
  | .subProcess info nodes connections autoComplete =>
    rw [nodeStatements, nodeDeclarations, freshDeclarations_append, List.map_append, vars_scopeDeclarations]
    simp only [declaring_append, List.append_assoc, List.cons_append]
    rw [declaring_openingStatements, declaring_call (by decide), declaring_append, declaring_append,
      declaring_nodesStatements _ _ _ _ nodes, declaring_map (fun _ => rfl), doneCall, declaring_call (by decide),
      declaring_nil, List.append_nil, List.append_nil]

theorem declaring_nodesStatements (scope : List String) (path : List NodeId) (target : String) (visited : NameSet)
    (ns : List Node) : declaring (nodesStatements scope path target visited ns).1 =
      (freshDeclarations visited (nodesDeclarations path ns)).map (Declaration.statement scope) := by
  match ns with
  | [] => rfl
  | n :: rest =>
    rw [nodesStatements, nodesDeclarations, freshDeclarations_append, List.map_append, vars_nodeDeclarations,
      declaring_append, declaring_nodeStatements scope path target visited n, nodeStatements_visited]
    exact congrArg _ (declaring_nodesStatements _ _ _ _ rest)

end

/-! ## Threading -/

/-- what a step does to the context that it runs in, and which of the declarations that it comes upon it makes -/
structure Threads (step : Translate (List Statement)) (c : Context) (ds : List Declaration) : Prop where
  /-- the place in the process is what it was, whether the step succeeds or fails -/
  target : (step c).2.target = c.target
  scopeClass : (step c).2.scopeClass = c.scopeClass
  containers : (step c).2.containers = c.containers
  siblings : (step c).2.siblings = c.siblings
  /-- no variable is forgotten, whether the step succeeds or fails -/
  grows : ∀ name ∈ c.visited, name ∈ (step c).2.visited
  /-- a step that succeeds has visited the variables of all declarations -/
  visits : ∀ statements, (step c).1 = .ok statements →
    ∀ name, name ∈ (step c).2.visited ↔ name ∈ c.visited ∨ ∃ d ∈ ds, d.name = name
  /-- a step that succeeds makes the first declaration of each name that was not visited, in order, and no other -/
  declares : ∀ statements, (step c).1 = .ok statements →
    declaring statements = (freshDeclarations c.visited ds).map (Declaration.statement c.scopePath)

/-- a step is threaded when its outcome declares what is to be declared -/
theorem Outcome.threads {step : Translate (List Statement)} {c : Context} {defects : List Fault}
    {statements : List Statement} {ds : List Declaration}
    (h : Outcome step c defects statements (visitedAfter c.visited (ds.map Declaration.var)))
    (declared : declaring statements = (freshDeclarations c.visited ds).map (Declaration.statement c.scopePath)) :
    Threads step c ds := by
  cases defects with
  | nil =>
    have done := h.succeeds rfl
    refine ⟨?_, ?_, ?_, ?_, ?_, ?_, ?_⟩
    all_goals rw [done]
    · exact h.grows
    · intro _ _ name
      rw [mem_visitedAfter]
      simp [Declaration.name]
    · rintro _ ⟨⟩
      exact declared
  | cons f rest =>
    obtain ⟨visited, grows, failed⟩ := h.fails f rest rfl
    refine ⟨?_, ?_, ?_, ?_, ?_, ?_, ?_⟩
    all_goals rw [failed]
    · exact grows
    · exact fun _ ok => nomatch ok
    · exact fun _ ok => nomatch ok

/-- **The context is threaded** through every node and every container, in whatever context they are translated and
whether or not they can be: the place in the process is left as it was entered and no variable is forgotten. Where the
translation succeeds, the variables of the subtree are visited, and of each name that was not visited before the first
declaration is made, on the builder of the node that owns it. -/
theorem visit_threads (kinds : Kinds) (c : Context) :
    (∀ n : Node, Threads (visit kinds n) c (nodeDeclarations c.containers n)) ∧
      ∀ (nodes : List Node) (connections : List Connection),
        Threads (emitNodes kinds nodes connections) c (nodesDeclarations c.containers nodes) := by
  refine ⟨fun n => ?_, fun nodes connections => ?_⟩
  · have outcome := visit_outcome kinds c n
    rw [nodeStatements_visited, ← vars_nodeDeclarations c.containers] at outcome
    exact outcome.threads (declaring_nodeStatements _ _ _ _ n)
  · have outcome := emitNodes_outcome kinds c nodes connections
    rw [nodesStatements_visited, ← vars_nodesDeclarations c.containers] at outcome
    refine outcome.threads ?_
    rw [declaring_append, declaring_nodesStatements, declaring_map (fun _ => rfl), List.append_nil]

end ProcessBuild.Translation
