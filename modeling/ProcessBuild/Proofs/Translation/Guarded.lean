/-
Identifiers are made by a constructor that ends the program where a text is no identifier. A guarded translation is the
translation with that constructor in each place where an identifier is made: of the names of builders and of their
methods, of gateway types, of the path to the type of the process, and of the names in the head of the file. It never
ends the program, since it is the translation as it stands, in every context and with every outcome.
- `guardedVisit_eq`: a node, whatever the context it is met in.
- `guardedCompile_eq`: a process, for every id and every name of the runtime.
-/
import ProcessBuild.Proofs.Generation.Modules
import ProcessBuild.Proofs.Translation.Spelling

namespace ProcessBuild.Translation

open Source Builder

/-- a translation that may end the program, which leaves no result -/
abbrev Guarded := ExceptT Fault (StateT Context Option)

/-- a word of letters, digits and underscores with no digit in front, all of them ASCII characters -/
def isAsciiWord (s : String) : Bool :=
  match s.toList with
  | [] => false
  | c :: rest => (c.isAlpha || c == '_') && rest.all fun d => d.isAlphanum || d == '_'

/-- whether the constructor makes an identifier of a text; more than it asks for, the text is to be an ASCII word -/
def makesIdentifier (s : String) : Bool := isIdentifier s && isAsciiWord s

/-- make identifiers of texts: each one has to be an identifier -/
def makeIdentifiers (names : List String) : Guarded Unit := fun c =>
  if names.all makesIdentifier then some (.ok (), c) else none

/-- a step that makes no identifiers -/
def guarded {α : Type} (step : Translate α) : Guarded α := fun c => some (step c)

/-- the identifiers that an activity makes beside those of its builder -/
def activityIdentifiers : Activity → List String
  | .workItem _ _ => ["work_parameter"]
  | .split gateway _ => [gatewayName gateway]
  | .join gateway => [gatewayName gateway]
  | _ => []

/-- `openNode` with its identifiers: the builder, the method that opens it, the one for metadata, and the type -/
def guardedOpen (kinds : Kinds) (info : NodeInfo) (kind : NodeKind) : Guarded (String × List Statement) := do
  let c ← get
  if kinds.has kind then
    makeIdentifiers (c.builderName kind.builderMethod info.id :: kind.builderMethod :: "metadata" :: c.scopePath)
  guarded (openNode kinds info kind)

def guardedAmong {α : Type} (ids : List NodeId) (step : Guarded α) : Guarded α := fun c =>
  (step (c.enter ids)).map fun (result, c') => (result, c'.leave)

def guardedWithin {α : Type} (id : NodeId) (target : String) (step : Guarded α) : Guarded α := fun c =>
  (step { c with target, containers := c.containers ++ [id] }).map fun (result, c') =>
    (result, { c' with target := c.target, containers := c'.containers.dropLast })

mutual

/-- `visit` with its identifiers -/
def guardedVisit (kinds : Kinds) : Node → Guarded (List Statement)
  | .activity info a => do
    let (builder, opening) ← guardedOpen kinds info a.kind
    makeIdentifiers (activityIdentifiers a)
    let body ← guarded (activityCalls info builder a)
    return opening ++ body ++ [doneCall builder]
  | .subProcess info nodes connections autoComplete => do
    let (builder, opening) ← guardedOpen kinds info .subProcess
    let body ← guardedWithin info.id builder (guardedAmong (nodes.map Node.id) (do
      let inner ← guardedVisitAll kinds nodes
      let edges ← guarded (connectionCalls connections)
      return inner ++ edges))
    return opening ++ .call builder "auto_complete" [.flag autoComplete] :: body ++ [doneCall builder]

def guardedVisitAll (kinds : Kinds) : List Node → Guarded (List Statement)
  | [] => pure []
  | n :: rest => do
    let first ← guardedVisit kinds n
    let others ← guardedVisitAll kinds rest
    return first ++ others

end

def guardedEmit (kinds : Kinds) (nodes : List Node) (connections : List Connection) : Guarded (List Statement) :=
  guardedAmong (nodes.map Node.id) (do
    let inner ← guardedVisitAll kinds nodes
    let edges ← guarded (connectionCalls connections)
    return inner ++ edges)

/-- `program` with its identifiers: the runtime, the type, the method for metadata, and the path to the type -/
def guardedProgram (kinds : Kinds) (m : ProcessModel) (runtime : String) : Guarded Program := do
  let c ← get
  makeIdentifiers (identifierOf runtime :: identifierOf c.scopeClass :: "metadata" :: c.scopePath)
  let factory := c.target
  let vars ← guarded (declareVariables factory m.vars)
  let nodes ← guardedEmit kinds m.nodes m.connections
  return {
    runtime := identifierOf runtime, typeName := identifierOf c.scopeClass, processId := m.id, factory
    statements := headerCalls m factory ++ metadataCalls factory m.metadata ++ vars ++ nodes ++
      [.call factory "validate" []] }

/-- `compile` with its identifiers, the first of which is that of the factory -/
def guardedCompile (m : ProcessModel) (kinds : Kinds) (runtime : String) : Option (Except Fault Program) :=
  let c := Context.ofProcess m
  ((do makeIdentifiers [c.target]; guardedProgram kinds m runtime : Guarded Program).run c).map Prod.fst

/-! ## Steps -/

section Steps

variable {α β : Type}

theorem guarded_pure (a : α) : guarded (pure a) = pure a := rfl

theorem guarded_bind (step : Translate α) (next : α → Translate β) :
    guarded (step >>= next) = guarded step >>= fun a => guarded (next a) := by
  funext c
  show some ((step >>= next) c) = _
  cases outcome : step c with
  | mk result c' =>
    have left : (step >>= next) c = (ExceptT.bindCont next result : StateM Context (Except Fault β)) c' := by
      show StateT.bind step (ExceptT.bindCont next) c = _
      unfold StateT.bind
      rw [outcome]
      rfl
    rw [left]
    show _ = StateT.bind (guarded step) (ExceptT.bindCont fun a => guarded (next a)) c
    unfold StateT.bind guarded
    rw [outcome]
    cases result with
    | ok a => rfl
    | error fault => rfl

theorem guardedAmong_guarded (ids : List NodeId) (step : Translate α) :
    guardedAmong ids (guarded step) = guarded (among ids step) := rfl

theorem guardedWithin_guarded (id : NodeId) (target : String) (step : Translate α) :
    guardedWithin id target (guarded step) = guarded (within id target step) := rfl

theorem isAlpha_of_isLetter {c : Char} (h : Text.isLetter c = true) : c.isAlpha = true := by
  refine Bool.or_eq_true_iff.2 ?_
  rcases Bool.or_eq_true_iff.1 h with small | capital
  · exact .inr small
  · obtain ⟨low, high⟩ := Bool.and_eq_true_iff.1 capital
    exact .inl (decide_eq_true ⟨of_decide_eq_true low, of_decide_eq_true high⟩)

theorem isAlphanum_of_isNameChar {c : Char} (h : isNameChar c = true) : (c.isAlphanum || c == '_') = true := by
  simp only [isNameChar, Text.isAlnum, Bool.or_eq_true, or_assoc] at h
  simp only [Char.isAlphanum, Bool.or_eq_true, or_assoc]
  rcases h with letter | digit | underscore
  · exact .inl (isAlpha_of_isLetter letter)
  · exact .inr (.inl digit)
  · exact .inr (.inr underscore)

theorem isAsciiWord_of_isName {w : String} (h : IsName w.toList) : isAsciiWord w = true := by
  obtain ⟨c, rest, spelled, noDigit⟩ := h.front
  have chars := h.chars
  rw [spelled] at chars
  obtain ⟨first, others⟩ := List.forall_mem_cons.1 chars
  unfold isAsciiWord
  rw [spelled]
  refine Bool.and_eq_true_iff.2 ⟨?_, List.all_eq_true.2 fun d among => isAlphanum_of_isNameChar (others d among)⟩
  simp only [isNameChar, Text.isAlnum, noDigit, Bool.or_false, Bool.or_eq_true] at first ⊢
  exact first.imp_left isAlpha_of_isLetter

theorem makesIdentifier_of_isName {w : String} (h : IsName w.toList) : makesIdentifier w = true :=
  Bool.and_eq_true_iff.2 ⟨Generation.isIdentifier_of_isName h, isAsciiWord_of_isName h⟩

/-- names can be made identifiers -/
theorem makeIdentifiers_eq {names : List String} (named : ∀ name ∈ names, IsName name.toList) :
    makeIdentifiers names = pure () := by
  have all : names.all makesIdentifier = true := List.all_eq_true.2 fun name isOne =>
    makesIdentifier_of_isName (named name isOne)
  funext c
  rw [makeIdentifiers, if_pos all]
  rfl

end Steps

/-! ## Nodes -/

theorem isName_scopePath (c : Context) : ∀ name ∈ c.scopePath, IsName name.toList := by
  intro name isSegment
  obtain ⟨segment, -, rfl⟩ := List.mem_map.1 isSegment
  rw [String.toList_ofList]
  exact isName_identifierChars segment

theorem isName_activityIdentifiers (a : Activity) : ∀ name ∈ activityIdentifiers a, IsName name.toList := by
  have gateway : ∀ g, IsName (gatewayName g).toList := by
    intro g
    cases g <;> decide
  cases a with
  | workItem => exact List.forall_mem_singleton.2 (by decide)
  | split g => exact List.forall_mem_singleton.2 (gateway g)
  | join g => exact List.forall_mem_singleton.2 (gateway g)
  | _ => exact List.forall_mem_nil _

theorem guardedOpen_eq (kinds : Kinds) (info : NodeInfo) (kind : NodeKind) :
    guardedOpen kinds info kind = guarded (openNode kinds info kind) := by
  have made : ∀ c : Context, makeIdentifiers (c.builderName kind.builderMethod info.id :: kind.builderMethod ::
      "metadata" :: c.scopePath) = pure () := fun c =>
    makeIdentifiers_eq (List.forall_mem_cons.2 ⟨isName_identifierOf _, List.forall_mem_cons.2
      ⟨(identifier_builderMethod kind).name, List.forall_mem_cons.2 ⟨by decide, isName_scopePath c⟩⟩⟩)
  unfold guardedOpen
  by_cases registered : kinds.has kind = true
  · simp only [made, if_pos registered]
    rfl
  · simp only [if_neg registered]
    rfl

mutual

/-- **A node** is visited without ending the program, whatever the context and the outcome. -/
theorem guardedVisit_eq (kinds : Kinds) (n : Node) : guardedVisit kinds n = guarded (visit kinds n) := by
  match n with
  | .activity info a =>
    rw [guardedVisit, visit, guardedOpen_eq, makeIdentifiers_eq (isName_activityIdentifiers a), guarded_bind]
    refine bind_congr fun opened => ?_
    rw [guarded_bind]
    rfl
  | .subProcess info nodes connections autoComplete =>
    rw [guardedVisit, visit, guardedOpen_eq, guardedVisitAll_eq kinds nodes, guarded_bind]
    refine bind_congr fun opened => ?_
    rw [guarded_bind, ← guardedWithin_guarded, ← guardedAmong_guarded, guarded_bind]
    simp only [guarded_bind, guarded_pure]

theorem guardedVisitAll_eq (kinds : Kinds) (nodes : List Node) :
    guardedVisitAll kinds nodes = guarded (visitAll kinds nodes) := by
  match nodes with
  | [] =>
    rw [guardedVisitAll, visitAll, guarded_pure]
  | n :: rest =>
    rw [guardedVisitAll, visitAll, guardedVisit_eq kinds n, guardedVisitAll_eq kinds rest]
    simp only [guarded_bind, guarded_pure]

end

/-! ## Processes -/

theorem guardedProgram_eq (kinds : Kinds) (m : ProcessModel) (runtime : String) :
    guardedProgram kinds m runtime = guarded (program kinds m runtime) := by
  have emitted : guardedEmit kinds m.nodes m.connections = guarded (emitNodes kinds m.nodes m.connections) := by
    rw [guardedEmit, emitNodes, guardedVisitAll_eq, ← guardedAmong_guarded]
    simp only [guarded_bind, guarded_pure]
  have made : ∀ c : Context, makeIdentifiers (identifierOf runtime :: identifierOf c.scopeClass :: "metadata" ::
      c.scopePath) = pure () := fun c =>
    makeIdentifiers_eq (List.forall_mem_cons.2 ⟨isName_identifierOf runtime, List.forall_mem_cons.2
      ⟨isName_identifierOf _, List.forall_mem_cons.2 ⟨by decide, isName_scopePath c⟩⟩⟩)
  rw [guardedProgram, program, emitted]
  simp only [made, guarded_bind, guarded_pure]
  rfl

/-- **A process** is translated without ending the program, for every id and every name of the runtime. -/
theorem guardedCompile_eq (m : ProcessModel) (kinds : Kinds) (runtime : String) :
    guardedCompile m kinds runtime = some (compile m kinds runtime) := by
  have factory : IsName "factory".toList := by decide
  have made : makeIdentifiers [(Context.ofProcess m).target] = pure () :=
    makeIdentifiers_eq (List.forall_mem_singleton.2 factory)
  rw [guardedCompile, made, guardedProgram_eq]
  rfl

end ProcessBuild.Translation
