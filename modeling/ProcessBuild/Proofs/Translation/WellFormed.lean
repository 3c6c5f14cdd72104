/-
The processes that can be translated, told without a traversal. A process is well formed when every node in each of its
containers is of a kind that can be translated, carries the name that its kind requires, branches to nodes of its own
container only, and every connection joins two nodes of its own container.
- `mem_modelDefects`: the defects that a traversal meets are those of the containers, each found in its own place.
- `wellFormed_iff`: a process is well formed exactly when a traversal meets no defect.
- `compileText_exact`: a process is translated exactly when it is well formed; else its first defect is the fault.
-/
import ProcessBuild.Proofs.Translation.Outcome

namespace ProcessBuild.Translation

open Builder

/-! ## Containers -/

/-- a container: the sub-processes around it, the outermost first, its nodes and its connections -/
structure Container where
  path : List NodeId
  nodes : List Node
  connections : List Connection

namespace Container

def position (c : Container) : Position := ⟨c.path, c.nodes.map Node.id⟩

/-- the containers inside a container, itself among them -/
inductive Holds : Container → Container → Prop where
  | here (c : Container) : Holds c c
  | inside {c c' : Container} {info : NodeInfo} {nodes : List Node} {connections : List Connection} {auto : Bool}
      (declared : Node.subProcess info nodes connections auto ∈ c.nodes)
      (held : Holds ⟨c.path ++ [info.id], nodes, connections⟩ c') : Holds c c'

end Container

def root (m : ProcessModel) : Container := ⟨[], m.nodes, m.connections⟩

/-! ## Well-formed processes -/

/-- a process with nothing wrong in any of its containers -/
structure WellFormed (kinds : Kinds) (m : ProcessModel) : Prop where
  registered : ∀ c, (root m).Holds c → ∀ n ∈ c.nodes, n.kind ∈ kinds.registered
  named : ∀ c, (root m).Holds c → ∀ info a, Node.activity info a ∈ c.nodes →
    ∀ name reason, requiredName a = some (name, reason) → Text.trim name.toList ≠ []
  branching : ∀ c, (root m).Holds c → ∀ info a, Node.activity info a ∈ c.nodes →
    ∀ x ∈ branches a, x.target ∈ c.nodes.map Node.id
  connected : ∀ c, (root m).Holds c → ∀ x ∈ c.connections,
    x.source ∈ c.nodes.map Node.id ∧ x.target ∈ c.nodes.map Node.id

/-- what is wrong in a container itself, with the fault that tells it -/
inductive Defect (kinds : Kinds) (c : Container) : Fault → Prop where
  | unregistered (n : Node) (declared : n ∈ c.nodes) (missing : n.kind ∉ kinds.registered) :
      Defect kinds c (c.position.fault n.id (some n.kind) .unregistered)
  | blank (info : NodeInfo) (a : Activity) (declared : Node.activity info a ∈ c.nodes) (name : String)
      (reason : Reason) (required : requiredName a = some (name, reason)) (missing : Text.trim name.toList = []) :
      Defect kinds c (c.position.fault info.id (some a.kind) reason)
  | branch (info : NodeInfo) (a : Activity) (declared : Node.activity info a ∈ c.nodes) (x : Constraint)
      (leaves : x ∈ branches a) (missing : x.target ∉ c.nodes.map Node.id) :
      Defect kinds c (c.position.fault info.id (some a.kind) (.unknownConstraintTarget x.target))
  | endpoint (x : Connection) (declared : x ∈ c.connections) (id : NodeId) (isEnd : id = x.source ∨ id = x.target)
      (missing : id ∉ c.nodes.map Node.id) :
      Defect kinds c (c.position.fault id none (.unknownConnectionEndpoint (connectionId x)))

theorem wellFormed_iff_no_defect (kinds : Kinds) (m : ProcessModel) :
    WellFormed kinds m ↔ ∀ c, (root m).Holds c → ∀ f, ¬Defect kinds c f := by
  constructor
  · intro wf c held f defect
    cases defect with
    | unregistered n declared missing => exact missing (wf.registered c held n declared)
    | blank info a declared name reason required missing =>
      exact wf.named c held info a declared name reason required missing
    | branch info a declared x leaves missing => exact missing (wf.branching c held info a declared x leaves)
    | endpoint x declared id isEnd missing =>
      obtain ⟨source, target⟩ := wf.connected c held x declared
      rcases isEnd with rfl | rfl
      · exact missing source
      · exact missing target
  · intro h
    refine ⟨fun c held n declared => ?_, fun c held info a declared name reason required missing => ?_,
      fun c held info a declared x leaves => ?_, fun c held x declared => ?_⟩
    · by_contra missing
      exact h c held _ (.unregistered n declared missing)
    · exact h c held _ (.blank info a declared name reason required missing)
    · by_contra missing
      exact h c held _ (.branch info a declared x leaves missing)
    · constructor
      · by_contra missing
        exact h c held _ (.endpoint x declared x.source (Or.inl rfl) missing)
      · by_contra missing
        exact h c held _ (.endpoint x declared x.target (Or.inr rfl) missing)

/-! ## Defects of a traversal -/

/-- all that is wrong in a container and those inside it, in the order in which a traversal meets it -/
def containerDefects (kinds : Kinds) (c : Container) : List Fault :=
  nodesDefects kinds c.position c.nodes ++ c.connections.flatMap (connectionDefects c.position)

theorem modelDefects_eq (kinds : Kinds) (m : ProcessModel) : modelDefects kinds m = containerDefects kinds (root m) :=
  rfl

theorem mem_kindDefects {kinds : Kinds} {pos : Position} {id : NodeId} {kind : NodeKind} {f : Fault} :
    f ∈ kindDefects kinds pos id kind ↔ kind ∉ kinds.registered ∧ f = pos.fault id (some kind) .unregistered := by
  unfold kindDefects
  split_ifs with h
  · simp [h]
  · simp [h]

theorem mem_blankDefects {name : String} {reason r : Reason} :
    r ∈ blankDefects name reason ↔ Text.trim name.toList = [] ∧ r = reason := by
  unfold blankDefects
  split_ifs with h
  · simp [h]
  · simp [h]

theorem mem_constraintDefects {siblings : List NodeId} {xs : List Constraint} {r : Reason} :
    r ∈ constraintDefects siblings xs ↔ ∃ x ∈ xs, x.target ∉ siblings ∧ r = .unknownConstraintTarget x.target := by
  simp only [constraintDefects, List.mem_map, List.mem_filter, Bool.not_eq_true', List.contains_eq_mem,
    decide_eq_false_iff_not]
  constructor
  · rintro ⟨x, ⟨hx, missing⟩, rfl⟩
    exact ⟨x, hx, missing, rfl⟩
  · rintro ⟨x, hx, missing, rfl⟩
    exact ⟨x, ⟨hx, missing⟩, rfl⟩

theorem mem_activityDefects {siblings : List NodeId} {a : Activity} {r : Reason} :
    r ∈ activityDefects siblings a ↔
      (∃ name, requiredName a = some (name, r) ∧ Text.trim name.toList = []) ∨
        ∃ x ∈ branches a, x.target ∉ siblings ∧ r = .unknownConstraintTarget x.target := by
  unfold activityDefects
  rw [List.mem_append, mem_constraintDefects, List.mem_flatMap]
  refine or_congr_left ⟨?_, ?_⟩
  · rintro ⟨⟨name, reason⟩, required, blank⟩
    obtain ⟨missing, rfl⟩ := mem_blankDefects.1 blank
    exact ⟨name, Option.mem_toList.1 required, missing⟩
  · rintro ⟨name, required, missing⟩
    exact ⟨(name, r), Option.mem_toList.2 required, mem_blankDefects.2 ⟨missing, rfl⟩⟩

theorem mem_connectionDefects {pos : Position} {x : Connection} {f : Fault} :
    f ∈ connectionDefects pos x ↔
      ∃ id, (id = x.source ∨ id = x.target) ∧ id ∉ pos.siblings ∧
        f = pos.fault id none (.unknownConnectionEndpoint (connectionId x)) := by
  simp only [connectionDefects, List.mem_map, List.mem_filter, Bool.not_eq_true', List.contains_eq_mem,
    decide_eq_false_iff_not, List.mem_cons, List.not_mem_nil, or_false]
  constructor
  · rintro ⟨id, ⟨isEnd, missing⟩, rfl⟩
    exact ⟨id, isEnd, missing, rfl⟩
  · rintro ⟨id, isEnd, missing, rfl⟩
    exact ⟨id, ⟨isEnd, missing⟩, rfl⟩

theorem mem_nodesDefects {kinds : Kinds} {pos : Position} {ns : List Node} {f : Fault} :
    f ∈ nodesDefects kinds pos ns ↔ ∃ n ∈ ns, f ∈ nodeDefects kinds pos n := by
  induction ns with
  | nil => simp [nodesDefects]
  | cons n rest ih => simp [nodesDefects, ih]

mutual

theorem defect_of_mem_nodeDefects {kinds : Kinds} {c : Container} {f : Fault} (n : Node) (declared : n ∈ c.nodes)
    (h : f ∈ nodeDefects kinds c.position n) : ∃ c', c.Holds c' ∧ Defect kinds c' f := by
  match n with
  | .activity info a =>
    rw [nodeDefects, List.mem_append, mem_kindDefects, List.mem_map] at h
    refine ⟨c, .here c, ?_⟩
    rcases h with ⟨missing, rfl⟩ | ⟨reason, found, rfl⟩
    · exact .unregistered _ declared missing
    · rcases mem_activityDefects.1 found with ⟨name, required, missing⟩ | ⟨x, leaves, missing, rfl⟩
      · exact .blank info a declared name reason required missing
      · exact .branch info a declared x leaves missing
  | .subProcess info nodes connections auto =>
    rw [nodeDefects, List.mem_append, mem_kindDefects, List.mem_append, List.mem_flatMap] at h
    let inner : Container := ⟨c.path ++ [info.id], nodes, connections⟩
    rcases h with ⟨missing, rfl⟩ | inside | ⟨x, joined, atEnd⟩
    · exact ⟨c, .here c, .unregistered _ declared missing⟩
    · obtain ⟨c', held, defect⟩ := defect_of_mem_nodesDefects (c := inner) nodes (fun _ hn => hn) inside
      exact ⟨c', .inside declared held, defect⟩
    · obtain ⟨id, isEnd, missing, rfl⟩ := mem_connectionDefects.1 atEnd
      exact ⟨inner, .inside declared (.here inner), Defect.endpoint (c := inner) x joined id isEnd missing⟩

theorem defect_of_mem_nodesDefects {kinds : Kinds} {c : Container} {f : Fault} (ns : List Node)
    (declared : ∀ n ∈ ns, n ∈ c.nodes) (h : f ∈ nodesDefects kinds c.position ns) :
    ∃ c', c.Holds c' ∧ Defect kinds c' f := by
  match ns with
  | [] => cases h
  | n :: rest =>
    rw [nodesDefects, List.mem_append] at h
    rcases h with first | others
    · exact defect_of_mem_nodeDefects n (declared n List.mem_cons_self) first
    · exact defect_of_mem_nodesDefects rest (fun k hk => declared k (List.mem_cons_of_mem n hk)) others

end

theorem mem_containerDefects_of_defect {kinds : Kinds} {c : Container} {f : Fault} (defect : Defect kinds c f) :
    f ∈ containerDefects kinds c := by
  unfold containerDefects
  rw [List.mem_append, mem_nodesDefects, List.mem_flatMap]
  cases defect with
  | unregistered n declared missing =>
    refine Or.inl ⟨n, declared, ?_⟩
    cases n with
    | activity info a => exact List.mem_append_left _ (mem_kindDefects.2 ⟨missing, rfl⟩)
    | subProcess info nodes connections auto => exact List.mem_append_left _ (mem_kindDefects.2 ⟨missing, rfl⟩)
  | blank info a declared name reason required missing =>
    refine Or.inl ⟨_, declared, List.mem_append_right _ (List.mem_map.2 ⟨reason, ?_, rfl⟩)⟩
    exact mem_activityDefects.2 (Or.inl ⟨name, required, missing⟩)
  | branch info a declared x leaves missing =>
    refine Or.inl ⟨_, declared, List.mem_append_right _ (List.mem_map.2 ⟨_, ?_, rfl⟩)⟩
    exact mem_activityDefects.2 (Or.inr ⟨x, leaves, missing, rfl⟩)
  | endpoint x declared id isEnd missing =>
    exact Or.inr ⟨x, declared, mem_connectionDefects.2 ⟨id, isEnd, missing, rfl⟩⟩

/-- the defects that a traversal of a container meets are those of the containers in it -/
theorem mem_containerDefects {kinds : Kinds} {c : Container} {f : Fault} :
    f ∈ containerDefects kinds c ↔ ∃ c', c.Holds c' ∧ Defect kinds c' f := by
  constructor
  · intro h
    rcases List.mem_append.1 h with inNodes | inConnections
    · exact defect_of_mem_nodesDefects c.nodes (fun _ hn => hn) inNodes
    · obtain ⟨x, declared, atEnd⟩ := List.mem_flatMap.1 inConnections
      obtain ⟨id, isEnd, missing, rfl⟩ := mem_connectionDefects.1 atEnd
      exact ⟨c, .here c, .endpoint x declared id isEnd missing⟩
  · rintro ⟨c', held, defect⟩
    induction held with
    | here c => exact mem_containerDefects_of_defect defect
    | inside declared held ih =>
      refine List.mem_append_left _ (mem_nodesDefects.2 ⟨_, declared, ?_⟩)
      rw [nodeDefects]
      exact List.mem_append_right _ (ih defect)

/-- **A traversal meets the defects that there are.** -/
theorem mem_modelDefects {kinds : Kinds} {m : ProcessModel} {f : Fault} :
    f ∈ modelDefects kinds m ↔ ∃ c, (root m).Holds c ∧ Defect kinds c f := by
  rw [modelDefects_eq]
  exact mem_containerDefects

theorem wellFormed_iff (kinds : Kinds) (m : ProcessModel) : WellFormed kinds m ↔ modelDefects kinds m = [] := by
  rw [wellFormed_iff_no_defect, List.eq_nil_iff_forall_not_mem]
  constructor
  · intro h f found
    obtain ⟨c, held, defect⟩ := mem_modelDefects.1 found
    exact h c held f defect
  · intro h c held f defect
    exact h f (mem_modelDefects.2 ⟨c, held, defect⟩)

/-! ## The outcome of a translation -/

/-- **A process is translated exactly when it is well formed, and else fails with its first defect.** A defect is what is
wrong in one of the containers, told at its own place. Whatever comes out, the context is left as it was but for the
variables declared; when a process is translated these are all the variables of its scopes. -/
theorem compileText_exact (kinds : Kinds) (m : ProcessModel) (runtime : String) :
    ((∃ text, compileText m kinds runtime = .ok text) ↔ WellFormed kinds m) ∧
    (∀ f, compileText m kinds runtime = .error f ↔ (modelDefects kinds m).head? = some f) ∧
    (∀ f, f ∈ modelDefects kinds m ↔ ∃ c, (root m).Holds c ∧ Defect kinds c f) ∧
    ∃ visited, ((program kinds m runtime).run (Context.ofProcess m)).2 = { Context.ofProcess m with visited } ∧
      (WellFormed kinds m → ∀ name, name ∈ visited ↔ ∃ v ∈ modelVariables m, v.name = name) := by
  have outcome := program_outcome kinds m runtime (Context.ofProcess m) rfl
  rw [wellFormed_iff]
  -- the outcome is told by the first defect: without one the whole program runs, else it stops there
  cases defects : modelDefects kinds m with
  | nil =>
    have run := outcome.succeeds defects
    have text : compileText m kinds runtime = .ok _ := congrArg (fun r => (r.1).map fun p => Source.text p.tokens) run
    refine ⟨⟨fun _ => rfl, fun _ => ⟨_, text⟩⟩, fun f => ?_, fun f => defects ▸ mem_modelDefects, _, congrArg Prod.snd run,
      fun _ name => mem_modelStatements.trans (or_iff_right (NameSet.not_mem_empty name))⟩
    rw [text]
    exact ⟨fun h => (nomatch h), fun h => (nomatch h)⟩
  | cons g rest =>
    obtain ⟨visited, -, run⟩ := outcome.fails g rest defects
    have fault : compileText m kinds runtime = .error g :=
      congrArg (fun r => (r.1).map fun p => Source.text p.tokens) run
    refine ⟨⟨fun ⟨text, ok⟩ => ?_, fun h => (nomatch h)⟩, fun f => ?_, fun f => defects ▸ mem_modelDefects, visited,
      congrArg Prod.snd run, fun h => (nomatch h)⟩
    · rw [fault] at ok
      cases ok
    · rw [fault, List.head?_cons, Except.error.injEq, Option.some.injEq]

end ProcessBuild.Translation
