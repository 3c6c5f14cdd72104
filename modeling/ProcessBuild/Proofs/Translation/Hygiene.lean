/-
Hygiene of builder names. The statements of a generated `build` function stand in one block, so a `let` hides every
earlier one of its name: a name refers to the builder of the latest `let` before it. Each statement is meant for one
builder, that of a node or the factory (`processSteps`), and its receiver refers to that builder.

A node's statements bind only names that are deeper than the builder they are made on (`level_builderName`), so they
hide neither that builder nor one around it. `Scoped` says this of a list of steps together with what its receivers
refer to, after any steps in which the builder that it is made on is bound; it is composed of calls on one builder
(`scoped_calls`), of one list after another (`Scoped.append`) and of the builder of a node (`Scoped.opening`).
- `scoped_nodeSteps`: the steps of a node are scoped, whatever is around it.
- `nodup_opened`: no builder is opened twice.
- `compile_hygienic`: every receiver of a process that is translated refers to the builder that it is meant for.
-/
import Mathlib.Data.List.Nodup
import ProcessBuild.Proofs.Translation.Meaning

namespace ProcessBuild

namespace Builder.Statement

/-- the name that a statement calls a method on -/
def receiver : Statement → String
  | bind _ target _ _ => target
  | call target _ _ => target

/-- the name that a statement binds -/
def bound? : Statement → Option String
  | bind name _ _ _ => some name
  | call .. => none

end Builder.Statement

namespace Translation

open Builder

/-! ## Steps -/

/-- a builder, by the positions of its node and of the sub-processes around it among the nodes of their containers, the
outermost first; the factory is that of no node -/
abbrev BuilderPlace := List Nat

/-- a statement with the builder that it is meant for, and the one that it opens if it opens one -/
structure Step where
  statement : Statement
  meant : BuilderPlace
  opened : Option BuilderPlace

/-- statements that are all meant for one builder and open none -/
def callSteps (place : BuilderPlace) (calls : List Statement) : List Step := calls.map fun x => ⟨x, place, none⟩

/-- the step that opens the builder of a node -/
def openingStep (path : List NodeId) (target : String) (around : BuilderPlace) (position : Nat) (n : Node) : Step :=
  ⟨.bind (builderName path n.kind n.id) target n.kind.builderMethod n.id, around, some (around ++ [position])⟩

mutual

/-- the steps of a node: its builder is opened on the builder around it, its own calls are meant for its builder, and
so are the nodes in it and their connections -/
def nodeSteps (scope : List String) (path : List NodeId) (target : String) (visited : NameSet) (around : BuilderPlace)
    (position : Nat) : Node → List Step
  | .activity info a =>
    let builder := builderName path a.kind info.id
    openingStep path target around position (.activity info a) ::
      callSteps (around ++ [position])
        (openingCalls builder scope visited info ++ activityStatements builder a ++ [doneCall builder])
  | .subProcess info nodes connections autoComplete =>
    let builder := builderName path .subProcess info.id
    let place := around ++ [position]
    openingStep path target around position (.subProcess info nodes connections autoComplete) ::
      (callSteps place
          (openingCalls builder scope visited info ++ [.call builder "auto_complete" [.flag autoComplete]]) ++
        nodesSteps scope (path ++ [info.id]) builder (visitedAfter visited (info.vars.getD [])) place 0 nodes ++
        callSteps place (connections.map (connectionStatement builder) ++ [doneCall builder]))

/-- the steps of the nodes of a list, the first of them at a position -/
def nodesSteps (scope : List String) (path : List NodeId) (target : String) (visited : NameSet) (around : BuilderPlace)
    (position : Nat) : List Node → List Step
  | [] => []
  | n :: rest =>
    nodeSteps scope path target visited around position n ++
      nodesSteps scope path target (nodeStatements scope path target visited n).2 around (position + 1) rest

end

def processSteps (m : ProcessModel) : List Step :=
  let scope := (Context.ofProcess m).scopePath
  callSteps [] (headingCalls "factory" scope m) ++
    nodesSteps scope [] "factory" (visitedAfter NameSet.empty m.vars) [] 0 m.nodes ++
    callSteps [] (m.connections.map (connectionStatement "factory") ++ [.call "factory" "validate" []])

theorem statements_callSteps (place : BuilderPlace) (calls : List Statement) :
    (callSteps place calls).map Step.statement = calls := by
  unfold callSteps
  rw [List.map_map]
  exact List.map_id calls

mutual

theorem statements_nodeSteps (scope : List String) (path : List NodeId) (target : String) (visited : NameSet)
    (around : BuilderPlace) (position : Nat) (n : Node) :
    (nodeSteps scope path target visited around position n).map Step.statement =
      (nodeStatements scope path target visited n).1 := by
  match n with
  | .activity info a =>
    rw [nodeSteps, nodeStatements, List.map_cons, statements_callSteps]
    rfl
  | .subProcess info nodes connections autoComplete =>
    rw [nodeSteps, nodeStatements, List.map_cons, List.map_append, List.map_append, statements_callSteps,
      statements_callSteps, statements_nodesSteps]
    simp [openingStatements, openingCalls, openingStep, Node.kind, Node.id, Node.info]

theorem statements_nodesSteps (scope : List String) (path : List NodeId) (target : String) (visited : NameSet)
    (around : BuilderPlace) (position : Nat) (ns : List Node) :
    (nodesSteps scope path target visited around position ns).map Step.statement =
      (nodesStatements scope path target visited ns).1 := by
  match ns with
  | [] => rfl
  | n :: rest =>
    rw [nodesSteps, nodesStatements, List.map_append, statements_nodeSteps, statements_nodesSteps]

end

theorem statements_processSteps (m : ProcessModel) :
    (processSteps m).map Step.statement = (modelStatements (Context.ofProcess m) m).1 := by
  unfold processSteps modelStatements
  rw [List.map_append, List.map_append, statements_callSteps, statements_callSteps, statements_nodesSteps]
  simp [headingCalls, Context.ofProcess]

/-! ## What names refer to -/

/-- the latest step that binds a name -/
def latest (name : String) (steps : List Step) : Option Step :=
  steps.reverse.find? fun s => s.statement.bound? = some name

/-- **Shadowing.** A name refers to the builder that the latest `let` of the name opens; the name of the factory refers to
the factory where no step has bound it. -/
def refersTo (factory : String) (steps : List Step) (name : String) : Option BuilderPlace :=
  match latest name steps with
  | some s => s.opened
  | none => if name = factory then some [] else none

theorem latest_append (name : String) (xs ys : List Step) : latest name (xs ++ ys) = (latest name ys).or (latest name xs) := by
  unfold latest
  rw [List.reverse_append, List.find?_append]

theorem latest_eq_none {name : String} {steps : List Step} :
    latest name steps = none ↔ ∀ s ∈ steps, s.statement.bound? ≠ some name := by
  unfold latest
  simp

/-- steps that do not bind a name leave what it refers to -/
theorem refersTo_append {factory name : String} {xs ys : List Step} (h : ∀ s ∈ ys, s.statement.bound? ≠ some name) :
    refersTo factory (xs ++ ys) name = refersTo factory xs name := by
  unfold refersTo
  rw [latest_append, latest_eq_none.2 h, Option.none_or]

/-- a name that the last step binds refers to what it opens -/
theorem refersTo_bound {factory name : String} {steps : List Step} {s : Step} (h : s.statement.bound? = some name) :
    refersTo factory (steps ++ [s]) name = s.opened := by
  have last : latest name [s] = some s := by simp [latest, h]
  unfold refersTo
  rw [latest_append, last]
  rfl

/-- after some steps, the receivers of further ones refer to the builders that these are meant for -/
def Resolved (factory : String) : List Step → List Step → Prop
  | _, [] => True
  | prior, s :: rest =>
    refersTo factory prior s.statement.receiver = some s.meant ∧ Resolved factory (prior ++ [s]) rest

theorem resolved_append {factory : String} {prior xs ys : List Step} :
    Resolved factory prior (xs ++ ys) ↔ Resolved factory prior xs ∧ Resolved factory (prior ++ xs) ys := by
  induction xs generalizing prior with
  | nil => simp [Resolved]
  | cons s rest ih =>
    rw [List.cons_append, Resolved, Resolved, ih, and_assoc, List.append_assoc, List.singleton_append]

/-! ## Scoped steps -/

/-- steps that are made on the builder at a place, which a name refers to: each receiver refers to the builder that it is
meant for, and no name up to a depth is bound -/
structure Scoped (factory : String) (depth : Nat) (target : String) (place : BuilderPlace) (steps : List Step) : Prop where
  resolved : ∀ prior, refersTo factory prior target = some place → Resolved factory prior steps
  deep : ∀ s ∈ steps, ∀ name, s.statement.bound? = some name → depth < level name

section Composition

variable {factory target : String} {depth : Nat} {place : BuilderPlace}

/-- scoped steps leave what the builder that they are made on is called -/
theorem Scoped.keeps {steps : List Step} (h : Scoped factory depth target place steps) (shallow : level target ≤ depth)
    (prior : List Step) : refersTo factory (prior ++ steps) target = refersTo factory prior target := by
  apply refersTo_append
  intro s hs bound
  exact absurd (h.deep s hs target bound) (not_lt.2 shallow)

theorem scoped_nil : Scoped factory depth target place [] := by
  refine ⟨fun _ _ => trivial, ?_⟩
  intro s hs
  cases hs

theorem Scoped.append {xs ys : List Step} (hx : Scoped factory depth target place xs)
    (hy : Scoped factory depth target place ys) (shallow : level target ≤ depth) :
    Scoped factory depth target place (xs ++ ys) := by
  refine ⟨?_, ?_⟩
  · intro prior refers
    refine resolved_append.2 ⟨hx.resolved prior refers, hy.resolved _ ?_⟩
    rw [hx.keeps shallow, refers]
  · intro s hs
    rcases List.mem_append.1 hs with front | back
    · exact hx.deep s front
    · exact hy.deep s back

theorem scoped_calls {calls : List Statement} (on : ∀ x ∈ calls, x.isCallOn target = true) :
    Scoped factory depth target place (callSteps place calls) := by
  induction calls with
  | nil => exact scoped_nil
  | cons x rest ih =>
    have others := ih fun y hy => on y (List.mem_cons_of_mem x hy)
    obtain ⟨method, arguments, rfl⟩ := Statement.exists_call (on x List.mem_cons_self)
    refine ⟨?_, ?_⟩
    · intro prior refers
      refine ⟨refers, others.resolved _ ?_⟩
      rw [refersTo_append, refers]
      intro s hs
      rw [List.mem_singleton.1 hs]
      exact Option.some_ne_none _ ∘ Eq.symm
    · intro s hs name bound
      rcases List.mem_cons.1 hs with rfl | later
      · cases bound
      · exact others.deep s later name bound

/-- the builder of a node with the steps on it; its name is one level below the builder that it is opened on -/
theorem Scoped.opening {name method : String} {id : NodeId} {inside : BuilderPlace} {body : List Step}
    (named : level name = depth + 1) (inner : Scoped factory (depth + 1) name inside body) :
    Scoped factory depth target place (⟨.bind name target method id, place, some inside⟩ :: body) := by
  refine ⟨?_, ?_⟩
  · intro prior refers
    exact ⟨refers, inner.resolved _ (refersTo_bound rfl)⟩
  · intro s hs other bound
    rcases List.mem_cons.1 hs with rfl | later
    · obtain rfl := Option.some.inj bound
      omega
    · have deeper := inner.deep s later other bound
      omega

end Composition

/-! ## Steps of nodes -/

section Nodes

variable (factory : String) (scope : List String)

mutual

/-- **The steps of a node are scoped**, whatever builder it is opened on and whatever is around it. -/
theorem scoped_nodeSteps (path : List NodeId) (target : String) (visited : NameSet) (around : BuilderPlace)
    (position : Nat) (n : Node) :
    Scoped factory path.length target around (nodeSteps scope path target visited around position n) := by
  match n with
  | .activity info a =>
    rw [nodeSteps]
    apply Scoped.opening (level_builderName path a.kind info.id)
    apply scoped_calls
    exact isCallOn_append (isCallOn_append isCallOn_openingCalls (isCallOn_activityStatements _ a)) isCallOn_call
  | .subProcess info nodes connections autoComplete =>
    have named := level_builderName path .subProcess info.id
    have deeper : (path ++ [info.id]).length = path.length + 1 := List.length_append
    have inner := scoped_nodesSteps (path ++ [info.id]) (builderName path .subProcess info.id)
      (named.trans deeper.symm).le (visitedAfter visited (info.vars.getD [])) (around ++ [position]) 0 nodes
    rw [deeper] at inner
    rw [nodeSteps]
    apply Scoped.opening named
    refine Scoped.append (Scoped.append (scoped_calls ?_) inner named.le) (scoped_calls ?_) named.le
    · exact isCallOn_append isCallOn_openingCalls isCallOn_call
    · exact isCallOn_append isCallOn_connectionStatements isCallOn_call

theorem scoped_nodesSteps (path : List NodeId) (target : String) (shallow : level target ≤ path.length)
    (visited : NameSet) (around : BuilderPlace) (position : Nat) (ns : List Node) :
    Scoped factory path.length target around (nodesSteps scope path target visited around position ns) := by
  match ns with
  | [] => exact scoped_nil
  | n :: rest =>
    rw [nodesSteps]
    exact (scoped_nodeSteps path target visited around position n).append
      (scoped_nodesSteps path target shallow _ around (position + 1) rest) shallow

end

end Nodes

theorem scoped_processSteps (m : ProcessModel) : Scoped "factory" 0 "factory" [] (processSteps m) := by
  have nodes := scoped_nodesSteps "factory" (Context.ofProcess m).scopePath [] "factory" level_factory.le
    (visitedAfter NameSet.empty m.vars) [] 0 m.nodes
  refine Scoped.append (Scoped.append (scoped_calls isCallOn_headingCalls) nodes level_factory.le) (scoped_calls ?_)
    level_factory.le
  exact isCallOn_append isCallOn_connectionStatements isCallOn_call

/-! ## Opened builders -/

def openedBuilders (steps : List Step) : List BuilderPlace := steps.filterMap Step.opened

@[simp] theorem openedBuilders_append (xs ys : List Step) :
    openedBuilders (xs ++ ys) = openedBuilders xs ++ openedBuilders ys := List.filterMap_append

@[simp] theorem openedBuilders_callSteps (place : BuilderPlace) (calls : List Statement) :
    openedBuilders (callSteps place calls) = [] := by
  induction calls with
  | nil => rfl
  | cons x rest ih => exact ih

section Places

variable (scope : List String)

theorem openedBuilders_activity (path : List NodeId) (target : String) (visited : NameSet) (around : BuilderPlace)
    (position : Nat) (info : NodeInfo) (a : Activity) :
    openedBuilders (nodeSteps scope path target visited around position (.activity info a)) = [around ++ [position]] := by
  rw [nodeSteps]
  exact congrArg (List.cons _) (openedBuilders_callSteps _ _)

theorem openedBuilders_subProcess (path : List NodeId) (target : String) (visited : NameSet) (around : BuilderPlace)
    (position : Nat) (info : NodeInfo) (nodes : List Node) (connections : List Connection) (autoComplete : Bool) :
    openedBuilders (nodeSteps scope path target visited around position
        (.subProcess info nodes connections autoComplete)) =
      (around ++ [position]) :: openedBuilders (nodesSteps scope (path ++ [info.id])
        (builderName path .subProcess info.id) (visitedAfter visited (info.vars.getD [])) (around ++ [position]) 0
        nodes) := by
  rw [nodeSteps]
  refine congrArg (List.cons _) ?_
  show openedBuilders _ = _
  simp

mutual

theorem below_nodeSteps (path : List NodeId) (target : String) (visited : NameSet) (around : BuilderPlace)
    (position : Nat) (n : Node) :
    ∀ q ∈ openedBuilders (nodeSteps scope path target visited around position n), around ++ [position] <+: q := by
  intro q hq
  match n with
  | .activity info a =>
    rw [openedBuilders_activity] at hq
    obtain rfl := List.mem_singleton.1 hq
    exact List.prefix_rfl
  | .subProcess info nodes connections autoComplete =>
    rw [openedBuilders_subProcess] at hq
    rcases List.mem_cons.1 hq with rfl | inner
    · exact List.prefix_rfl
    · obtain ⟨j, -, below⟩ := below_nodesSteps _ _ _ _ 0 nodes q inner
      exact (List.prefix_append _ _).trans below

/-- the nodes of a list open builders at their places and below them only -/
theorem below_nodesSteps (path : List NodeId) (target : String) (visited : NameSet) (around : BuilderPlace)
    (position : Nat) (ns : List Node) :
    ∀ q ∈ openedBuilders (nodesSteps scope path target visited around position ns),
      ∃ j, position ≤ j ∧ around ++ [j] <+: q := by
  intro q hq
  match ns with
  | [] => cases hq
  | n :: rest =>
    rw [nodesSteps, openedBuilders_append] at hq
    rcases List.mem_append.1 hq with first | later
    · exact ⟨position, le_rfl, below_nodeSteps path target visited around position n q first⟩
    · obtain ⟨j, after, below⟩ := below_nodesSteps _ _ _ _ (position + 1) rest q later
      exact ⟨j, Nat.le_of_succ_le after, below⟩

end

mutual

theorem nodup_nodeSteps (path : List NodeId) (target : String) (visited : NameSet) (around : BuilderPlace)
    (position : Nat) (n : Node) :
    (openedBuilders (nodeSteps scope path target visited around position n)).Nodup := by
  match n with
  | .activity info a =>
    rw [openedBuilders_activity]
    exact List.nodup_cons.2 ⟨List.not_mem_nil, List.nodup_nil⟩
  | .subProcess info nodes connections autoComplete =>
    rw [openedBuilders_subProcess]
    refine List.nodup_cons.2 ⟨?_, nodup_nodesSteps _ _ _ _ 0 nodes⟩
    intro inner
    obtain ⟨j, -, below⟩ := below_nodesSteps scope _ _ _ _ 0 nodes _ inner
    have shorter := below.length_le
    simp at shorter

theorem nodup_nodesSteps (path : List NodeId) (target : String) (visited : NameSet) (around : BuilderPlace)
    (position : Nat) (ns : List Node) :
    (openedBuilders (nodesSteps scope path target visited around position ns)).Nodup := by
  match ns with
  | [] => exact List.nodup_nil
  | n :: rest =>
    rw [nodesSteps, openedBuilders_append]
    refine List.nodup_append.2 ⟨nodup_nodeSteps path target visited around position n,
      nodup_nodesSteps _ _ _ _ (position + 1) rest, ?_⟩
    -- the places of a node and of a later one differ where the nodes stand in their container
    intro q first r later same
    subst same
    have below := below_nodeSteps scope path target visited around position n q first
    obtain ⟨j, after, other⟩ := below_nodesSteps scope _ _ _ _ (position + 1) rest q later
    have equal := (List.prefix_of_prefix_length_le below other (by simp)).eq_of_length (by simp)
    have positions : position = j := List.singleton_inj.1 (List.append_cancel_left equal)
    omega

end

end Places

theorem nodup_opened (m : ProcessModel) : (openedBuilders (processSteps m)).Nodup := by
  unfold processSteps
  rw [openedBuilders_append, openedBuilders_append, openedBuilders_callSteps, openedBuilders_callSteps,
    List.nil_append, List.append_nil]
  exact nodup_nodesSteps _ _ _ _ _ _ _

theorem ne_nil_of_opened {m : ProcessModel} {place : BuilderPlace} (h : place ∈ openedBuilders (processSteps m)) :
    place ≠ [] := by
  unfold processSteps at h
  rw [openedBuilders_append, openedBuilders_append, openedBuilders_callSteps, openedBuilders_callSteps,
    List.nil_append, List.append_nil] at h
  obtain ⟨j, -, below⟩ := below_nodesSteps _ _ _ _ _ _ _ _ h
  rintro rfl
  have shorter := below.length_le
  simp at shorter

/-! ## Hygiene -/

/-- what it means that the statements of a `build` function are hygienic, told step by step -/
structure Hygienic (factory : String) (statements : List Statement) (steps : List Step) : Prop where
  /-- the steps are the statements, each with the builder that it is meant for -/
  same : steps.map Step.statement = statements
  /-- no builder is opened twice -/
  distinct : (openedBuilders steps).Nodup
  /-- the receiver of each statement refers to the builder that it is meant for -/
  refers : ∀ before s after, steps = before ++ s :: after →
    refersTo factory before s.statement.receiver = some s.meant
  /-- a statement that is meant for a builder calls it by the name of its `let`, which none in between binds again -/
  kept : ∀ before opening middle closing after, steps = before ++ opening :: (middle ++ closing :: after) →
    opening.opened = some closing.meant →
      opening.statement.bound? = some closing.statement.receiver ∧
        ∀ s ∈ middle, s.statement.bound? ≠ some closing.statement.receiver
  /-- the name of the factory is not bound again -/
  factory : ∀ x ∈ statements, x.bound? ≠ some factory

theorem refers_of_resolved {factory : String} {prior before after : List Step} {s : Step}
    (h : Resolved factory prior (before ++ s :: after)) :
    refersTo factory (prior ++ before) s.statement.receiver = some s.meant :=
  (resolved_append.1 h).2.1

/-- a name that refers to a builder other than the factory refers to it through the latest `let` -/
theorem exists_latest {factory name : String} {steps : List Step} {place : BuilderPlace} (other : place ≠ [])
    (h : refersTo factory steps name = some place) : ∃ s, latest name steps = some s ∧ s.opened = some place := by
  unfold refersTo at h
  split at h
  · rename_i s last
    exact ⟨s, last, h⟩
  · split at h
    · exact absurd (Option.some.inj h).symm other
    · cases h

theorem mem_of_latest {name : String} {steps : List Step} {s : Step} (h : latest name steps = some s) : s ∈ steps :=
  List.mem_reverse.1 (List.mem_of_find?_eq_some h)

theorem mem_openedBuilders {steps : List Step} {s : Step} {place : BuilderPlace} (h : s ∈ steps)
    (opens : s.opened = some place) : place ∈ openedBuilders steps := List.mem_filterMap.2 ⟨s, h, opens⟩

/-- where no builder is opened twice, a name that refers to a builder after it was opened was bound by the step that
opened it, and by none after that -/
theorem bound_of_refersTo {factory name : String} {before middle : List Step} {opening : Step} {place : BuilderPlace}
    (distinct : (openedBuilders (before ++ opening :: middle)).Nodup) (opens : opening.opened = some place)
    (other : place ≠ []) (refers : refersTo factory (before ++ opening :: middle) name = some place) :
    opening.statement.bound? = some name ∧ ∀ s ∈ middle, s.statement.bound? ≠ some name := by
  have only : place ∉ openedBuilders before ++ openedBuilders middle := by
    have own : openedBuilders (opening :: middle) = place :: openedBuilders middle := List.filterMap_cons_some opens
    rw [openedBuilders_append, own] at distinct
    exact (List.nodup_cons.1 (List.nodup_middle.1 distinct)).1
  obtain ⟨s, last, same⟩ := exists_latest other refers
  have after : latest name middle = none := by
    cases later : latest name middle with
    | none => rfl
    | some t =>
      rw [← List.singleton_append, ← List.append_assoc, latest_append, later, Option.some_or] at last
      obtain rfl := Option.some.inj last
      exact absurd (List.mem_append_right _ (mem_openedBuilders (mem_of_latest later) same)) only
  refine ⟨?_, latest_eq_none.1 after⟩
  by_contra free
  have earlier : latest name before = some s := by
    have alone : latest name [opening] = none := latest_eq_none.2 (List.forall_mem_singleton.2 free)
    rwa [← List.singleton_append, ← List.append_assoc, latest_append, after, Option.none_or, latest_append, alone,
      Option.none_or] at last
  exact only (List.mem_append_left _ (mem_openedBuilders (mem_of_latest earlier) same))

theorem hygienic_processSteps (m : ProcessModel) :
    Hygienic "factory" (modelStatements (Context.ofProcess m) m).1 (processSteps m) := by
  have whole := scoped_processSteps m
  have resolved : Resolved "factory" [] (processSteps m) := whole.resolved [] rfl
  have refers : ∀ before s after, processSteps m = before ++ s :: after →
      refersTo "factory" before s.statement.receiver = some s.meant := by
    intro before s after split
    rw [split] at resolved
    exact refers_of_resolved resolved
  refine ⟨statements_processSteps m, nodup_opened m, refers, ?_, ?_⟩
  · intro before opening middle closing after split opens
    have closes : processSteps m = (before ++ opening :: middle) ++ closing :: after := by
      rw [split, List.append_assoc, List.cons_append]
    have distinct : (openedBuilders (before ++ opening :: middle)).Nodup := by
      have all := nodup_opened m
      rw [closes, openedBuilders_append] at all
      exact (List.nodup_append.1 all).1
    have isOpened : opening ∈ processSteps m := split ▸ List.mem_append_right _ List.mem_cons_self
    exact bound_of_refersTo distinct opens (ne_nil_of_opened (mem_openedBuilders isOpened opens)) (refers _ _ _ closes)
  · intro x hx bound
    rw [← statements_processSteps, List.mem_map] at hx
    obtain ⟨s, hs, rfl⟩ := hx
    exact Nat.lt_irrefl 0 (level_factory ▸ whole.deep s hs "factory" bound)

/-- **Hygiene of builder names.** In the statements of a process that is translated, the receiver of each statement
refers to the builder that it is meant for, a builder keeps its name until the last statement that is meant for it, and
the factory keeps its name to the end. The name of a builder tells the kind of its node, the sub-processes around it and
its number; the number of a node with those around it tells the latter two. -/
theorem compile_hygienic {kinds : Kinds} {m : ProcessModel} {runtime : String} {p : Program}
    (h : compile m kinds runtime = .ok p) :
    Hygienic p.factory p.statements (processSteps m) ∧
      (∀ (c d : Context) (kind other : NodeKind) (id number : NodeId),
        c.builderName kind.builderMethod id = d.builderName other.builderMethod number →
          kind = other ∧ c.containers = d.containers ∧ id = number) ∧
      ∀ (c d : Context) (id number : NodeId), c.uniqueId id = d.uniqueId number →
        c.containers = d.containers ∧ id = number := by
  obtain rfl := compile_eq h
  refine ⟨hygienic_processSteps m, ?_, ?_⟩
  · intro c d kind other id number same
    exact @builderName_inj c.containers d.containers kind other id number same
  · intro c d id number same
    exact uniqueId_inj same

/-- a process with two sub-processes of one number, each with nodes of one number, one of them as deep as the other is
wide -/
def twinProcess : ProcessModel where
  id := "twins"
  name := none
  packageName := none
  version := none
  nodes := [
    .subProcess ⟨5, none, NameMap.empty, none⟩
      [.activity ⟨2, none, NameMap.empty, none⟩ (.start none),
        .subProcess ⟨5, none, NameMap.empty, none⟩ [.activity ⟨2, none, NameMap.empty, none⟩ (.join .and)] [] true,
        .activity ⟨2, none, NameMap.empty, none⟩ (.start none)] [⟨2, 5, none⟩] false,
    .subProcess ⟨5, none, NameMap.empty, none⟩ [.activity ⟨2, none, NameMap.empty, none⟩ (.start none)] [] false,
    .activity ⟨52, none, NameMap.empty, none⟩ (.start none)]
  connections := [⟨5, 52, none⟩]
  vars := []
  metadata := NameMap.empty

theorem twinProcess_hygienic :
    ∃ p, compile twinProcess Kinds.full "runtime" = .ok p ∧ Hygienic p.factory p.statements (processSteps twinProcess) := by
  have translated : (compile twinProcess Kinds.full "runtime").toBool = true := by decide +kernel
  cases e : compile twinProcess Kinds.full "runtime" with
  | error f =>
    rw [e] at translated
    cases translated
  | ok p => exact ⟨p, rfl, (compile_hygienic e).1⟩

end Translation
end ProcessBuild
