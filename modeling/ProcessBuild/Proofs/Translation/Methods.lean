/-
The methods that builder code calls. Every statement calls one method, whose name stands behind a dot; in the file of a
process nothing else does but the method that yields the process. So a text holds a statement that opens a builder of a
kind, or one that calls a given method, where the translation has emitted one.
- `followers_program`: what stands behind a dot in the file of a process.
- `methodFits_modelStatements`: builders are opened by the methods of kinds, and calls are of other methods.
- `opened_modelStatements`: the builders that a process opens are those of its nodes, at every depth.
- `declaring_modelStatements`: the variables that it declares are the first declarations of its scopes, at every depth.
- `opensBy_iff`: a builder of a kind is opened where the process has a node of that kind, at any depth.
- `declaresVariable_iff`: a variable is declared where a scope of the process has one, at any depth.
-/
import ProcessBuild.Proofs.Source.Layout
import ProcessBuild.Proofs.Source.Occurrence
import ProcessBuild.Proofs.Translation.BuilderName
import ProcessBuild.Proofs.Translation.Meaning
import ProcessBuild.Proofs.Translation.Spelling
import ProcessBuild.Proofs.Translation.Threading

namespace ProcessBuild

open Source Builder

/-! ## Dots -/

namespace Builder

def Statement.method : Statement → String
  | .bind _ _ method _ => method
  | .call _ method _ => method

def isDot : Token → Bool
  | .punct c _ => c == '.'
  | _ => false

/-- a token without a dot, at any depth -/
def Dotless (t : Token) : Prop := isDot t = false ∧ t.followers isDot = []

theorem dotless_path (names : List String) : ∀ t ∈ Token.path names, Dotless t := by
  induction names with
  | nil => exact List.forall_mem_nil _
  | cons name rest ih =>
    have word : Dotless (.word name) := ⟨rfl, rfl⟩
    cases rest with
    | nil => exact List.forall_mem_singleton.2 word
    | cons other rest =>
      have separator : ∀ t ∈ Token.pathSeparator, Dotless t :=
        List.forall_mem_cons.2 ⟨⟨rfl, rfl⟩, List.forall_mem_singleton.2 ⟨rfl, rfl⟩⟩
      rw [Token.path]
      · exact List.forall_mem_append.2 ⟨List.forall_mem_cons.2 ⟨word, separator⟩, ih⟩
      · exact List.cons_ne_nil other rest

theorem dotless_argument (a : Argument) : ∀ t ∈ a.tokens, Dotless t := by
  have integer : ∀ i suffix, ∀ t ∈ integerTokens i suffix, Dotless t := by
    intro i suffix
    unfold integerTokens
    split
    · exact List.forall_mem_cons.2 ⟨⟨rfl, rfl⟩, List.forall_mem_singleton.2 ⟨rfl, rfl⟩⟩
    · exact List.forall_mem_singleton.2 ⟨rfl, rfl⟩
  cases a with
  | text s => exact List.forall_mem_singleton.2 ⟨rfl, rfl⟩
  | flag b => exact List.forall_mem_singleton.2 ⟨rfl, rfl⟩
  | int32 i => exact integer _ _
  | int64 i => exact integer _ _
  | node id => exact List.forall_mem_singleton.2 ⟨rfl, rfl⟩
  | optionalText s =>
    cases s with
    | none => exact List.forall_mem_singleton.2 ⟨rfl, rfl⟩
    | some s => exact List.forall_mem_cons.2 ⟨⟨rfl, rfl⟩, List.forall_mem_singleton.2 ⟨rfl, rfl⟩⟩
  | gateway g => exact dotless_path _
  | dataType typeName scope =>
    refine List.forall_mem_append.2 ⟨dotless_path _, List.forall_mem_singleton.2 ⟨rfl, followersIn_eq_nil ?_⟩⟩
    simp only [List.cons_append, List.forall_mem_cons, List.forall_mem_append]
    refine ⟨⟨rfl, rfl⟩, ⟨rfl, rfl⟩, ⟨dotless_path scope, ?_⟩, ⟨rfl, rfl⟩, ⟨rfl, rfl⟩, List.forall_mem_nil _⟩
    exact List.forall_mem_cons.2 ⟨⟨rfl, rfl⟩, List.forall_mem_singleton.2 ⟨rfl, rfl⟩⟩

/-- **A statement** has its method behind a dot, and nothing else. -/
theorem followers_statement (s : Statement) : followersIn isDot s.tokens = [.word s.method] := by
  cases s with
  | bind name target method id => rfl
  | call target method arguments =>
    -- whatever an argument says is inside a literal, so a dot in it is no token
    have inside : followersIn isDot (Token.separated (arguments.map Argument.tokens)) = [] := by
      apply followersIn_eq_nil
      cases arguments with
      | nil => exact List.forall_mem_nil _
      | cons a rest =>
        rw [List.map_cons, separated_cons]
        refine List.forall_mem_append.2 ⟨dotless_argument a, fun t inRest => ?_⟩
        simp only [List.flatMap_map, List.mem_flatMap, List.mem_cons] at inRest
        obtain ⟨other, -, rfl | isToken⟩ := inRest
        · exact ⟨rfl, rfl⟩
        · exact dotless_argument other t isToken
    show followersIn isDot [.word target, .mark '.', .word method, .group .parenthesis _, .mark ';'] = _
    simp only [followersIn, Token.followers, inside]
    rfl

theorem ends_statement (s : Statement) : ∀ t ∈ s.tokens.getLast?, isDot t = false := by
  intro t isLast
  cases s with
  | bind name target method id =>
    cases isLast
    rfl
  | call target method arguments =>
    cases isLast
    rfl

theorem followers_statements (statements : List Statement) :
    followersIn isDot (tokensOf statements) = statements.map fun s => .word s.method := by
  unfold tokensOf
  rw [followersIn_flatMap fun s _ => ends_statement s, List.map_eq_flatMap]
  simp only [followers_statement]

end Builder

namespace Translation

theorem followers_body (p : Program) :
    followersIn isDot p.body = (p.statements.map fun s => .word s.method) ++ [.word "get_process"] := by
  have shape : p.body = openingTokens p ++ (tokensOf p.statements ++ resultTokens p) := List.append_assoc ..
  have ends : ∀ t ∈ (tokensOf p.statements).getLast?, isDot t = false := ends_flatMap fun s _ => ends_statement s
  rw [shape, followersIn_append, followersIn_append ends, followers_statements]
  · rfl
  · intro t isLast
    cases isLast
    rfl

/-- **What stands behind a dot** in the file of a process: the methods of its statements, and the one that yields it. -/
theorem followers_program (p : Program) :
    followersIn isDot p.tokens = (p.statements.map fun s => .word s.method) ++ [.word "get_process"] := by
  rw [← followers_body]
  simp [Program.tokens, Program.stringConstant, Token.path, Token.pathSeparator, Token.operator, Token.operatorChars,
    Token.docLine, Token.lifetime, Token.braces, Token.brackets, Token.mark, Token.parens, Token.string, followersIn,
    Token.followers, isDot]

/-! ## Methods of kinds -/

def opensBuilder (method : String) : Bool := NodeKind.all.any fun kind => kind.builderMethod = method

theorem opensBuilder_builderMethod (kind : NodeKind) : opensBuilder kind.builderMethod = true := by
  cases kind <;> decide

/-- a statement that binds the builder that a kind's method opens, or calls a method that opens none -/
def MethodFits : Statement → Prop
  | .bind _ _ method _ => ∃ kind : NodeKind, method = kind.builderMethod
  | .call _ method _ => opensBuilder method = false

def plainTurns (turns : List (Option String)) : Bool := turns.all fun turn => turn.all fun method => !opensBuilder method

theorem plainTurns_node (kind : NodeKind) : plainTurns (nodeProtocol kind) = true := by
  cases kind <;> decide

theorem plainTurns_process : plainTurns processProtocol = true := by decide

/-- calls that are put together turn by turn are of the methods of the turns -/
theorem methodFits_calls {target : String} {calls : List Statement} {sections : Sections} {protocol : List (Option String)}
    (on : ∀ x ∈ calls, x.isCallOn target = true) (assembled : calls.map event = sections.assemble)
    (proper : sections.Proper) (turns : protocol = sections.map Prod.fst) (plain : plainTurns protocol = true) :
    ∀ x ∈ calls, MethodFits x := by
  intro x isCall
  obtain ⟨method, arguments, rfl⟩ := Statement.exists_call (on x isCall)
  have recorded : event (.call target method arguments) ∈ sections.assemble := assembled ▸ List.mem_map_of_mem isCall
  obtain ⟨s, isSection, inSection⟩ := List.mem_flatMap.1 recorded
  have turn : s.1 = some method := (proper.tagged s isSection _ inSection).symm
  have isTurn : some method ∈ protocol := by
    rw [turns, ← turn]
    exact List.mem_map_of_mem isSection
  have isPlain : (!opensBuilder method) = true := List.all_eq_true.1 plain _ isTurn
  rw [Bool.not_eq_true'] at isPlain
  exact isPlain

theorem methodFits_nodeCalls {builder : String} {own : List Statement} {sections : Sections} (scope : List String)
    (visited : NameSet) (info : NodeInfo) (kind : NodeKind) (on : ∀ x ∈ own, x.isCallOn builder = true)
    (assembled : own.map event = sections.assemble) (turns : sections.map Prod.fst = ownProtocol kind)
    (tagged : ∀ s ∈ sections, ∀ e ∈ s.2, e.method = s.1) :
    ∀ x ∈ openingCalls builder scope visited info ++ own ++ [doneCall builder], MethodFits x := by
  have whole : (openingCalls builder scope visited info ++ own ++ [doneCall builder]).map event =
      (nodeSections builder scope visited info sections).assemble := by
    unfold nodeSections
    rw [assemble_append, assemble_append, ← assemble_openingSections, ← assembled, List.map_append, List.map_append]
    rfl
  exact methodFits_calls (isCallOn_append (isCallOn_append isCallOn_openingCalls on) isCallOn_call) whole
    (nodeSections_proper turns tagged) (nodeSections_turns turns) (plainTurns_node kind)

mutual

/-- the statements of a node open builders by the methods of kinds, and call other methods on them -/
theorem methodFits_nodeStatements (scope : List String) (path : List NodeId) (target : String) (visited : NameSet)
    (n : Node) : ∀ x ∈ (nodeStatements scope path target visited n).1, MethodFits x := by
  match n with
  | .activity info a =>
    let builder := builderName path a.kind info.id
    have calls := methodFits_nodeCalls scope visited info a.kind (isCallOn_activityStatements builder a)
      (assemble_activitySections builder a) (activitySections_turns builder a) (tagged_activitySections builder a)
    rw [nodeStatements]
    exact List.forall_mem_cons.2 ⟨⟨a.kind, rfl⟩, calls⟩
  | .subProcess info nodes connections autoComplete =>
    let builder := builderName path .subProcess info.id
    have inner := methodFits_nodesStatements scope (path ++ [info.id]) builder
      (visitedAfter visited (info.vars.getD [])) nodes
    have on : ∀ x ∈ .call builder "auto_complete" [.flag autoComplete] :: connections.map (connectionStatement builder),
        x.isCallOn builder = true := isCallOn_cons isCallOn_connectionStatements
    have calls := methodFits_nodeCalls scope visited info .subProcess on
      (assemble_subProcessSections builder [] connections autoComplete).symm rfl
      (tagged_subProcessSections builder [] connections autoComplete)
    simp only [List.forall_mem_append, List.forall_mem_cons] at calls
    obtain ⟨⟨opening, completes, joined⟩, done⟩ := calls
    rw [nodeStatements]
    refine List.forall_mem_append.2 ⟨List.forall_mem_append.2 ⟨List.forall_mem_cons.2 ⟨⟨.subProcess, rfl⟩, opening⟩, ?_⟩, ?_⟩
    · exact List.forall_mem_cons.2 ⟨completes, List.forall_mem_append.2 ⟨inner, joined⟩⟩
    · exact List.forall_mem_cons.2 done

theorem methodFits_nodesStatements (scope : List String) (path : List NodeId) (target : String) (visited : NameSet)
    (ns : List Node) : ∀ x ∈ (nodesStatements scope path target visited ns).1, MethodFits x := by
  match ns with
  | [] => exact List.forall_mem_nil _
  | n :: rest =>
    rw [nodesStatements]
    exact List.forall_mem_append.2 ⟨methodFits_nodeStatements scope path target visited n,
      methodFits_nodesStatements _ _ _ _ rest⟩

end

/-- the statements of a process are calls on its factory around those of its nodes -/
theorem modelStatements_eq (m : ProcessModel) :
    (modelStatements (Context.ofProcess m) m).1 = headingCalls "factory" (Context.ofProcess m).scopePath m ++
      ((nodesStatements (Context.ofProcess m).scopePath [] "factory" (visitedAfter NameSet.empty m.vars) m.nodes).1 ++
        m.connections.map (connectionStatement "factory")) ++ [.call "factory" "validate" []] := rfl

/-- **The statements of a process** open builders by the methods of kinds, and call other methods on them. -/
theorem methodFits_modelStatements (m : ProcessModel) :
    ∀ x ∈ (modelStatements (Context.ofProcess m) m).1, MethodFits x := by
  have calls : ∀ x ∈ headingCalls "factory" (Context.ofProcess m).scopePath m ++
      (m.connections.map (connectionStatement "factory") ++ [.call "factory" "validate" []]), MethodFits x := by
    refine methodFits_calls (isCallOn_append isCallOn_headingCalls
      (isCallOn_append isCallOn_connectionStatements isCallOn_call)) ?_
      (processSections_proper "factory" (Context.ofProcess m).scopePath m []) rfl plainTurns_process
    rw [assemble_processSections]
    simp [event]
  simp only [List.forall_mem_append] at calls
  obtain ⟨heading, joined, validated⟩ := calls
  rw [modelStatements_eq]
  exact List.forall_mem_append.2 ⟨List.forall_mem_append.2 ⟨heading, List.forall_mem_append.2
    ⟨methodFits_nodesStatements _ _ _ _ m.nodes, joined⟩⟩, validated⟩

/-! ## Kinds of opened builders -/

mutual

/-- the kinds of a node and of the nodes inside it, each node before those inside it -/
def nodeKinds : Node → List NodeKind
  | .activity _ a => [a.kind]
  | .subProcess _ nodes _ _ => .subProcess :: nodesKinds nodes

/-- the kinds of the nodes of a list and of those inside them -/
def nodesKinds : List Node → List NodeKind
  | [] => []
  | n :: rest => nodeKinds n ++ nodesKinds rest

end

mutual

/-- looking for a node of a kind is looking through the kinds -/
theorem any_kind (kind : NodeKind) (n : Node) : n.any (fun n => n.kind == kind) = (nodeKinds n).contains kind := by
  match n with
  | .activity info a =>
    rw [Node.any, nodeKinds, List.contains_cons, List.contains_nil, Bool.or_false, Node.kind, Bool.beq_comm]
  | .subProcess info nodes connections autoComplete =>
    rw [Node.any, nodeKinds, List.contains_cons, anyNode_kind kind nodes, Node.kind, Bool.beq_comm]

theorem anyNode_kind (kind : NodeKind) (ns : List Node) :
    anyNode (fun n => n.kind == kind) ns = (nodesKinds ns).contains kind := by
  match ns with
  | [] => rfl
  | n :: rest => rw [anyNode, nodesKinds, any_kind kind n, anyNode_kind kind rest, List.contains_append]

end

theorem hasHumanTasks_iff (m : ProcessModel) : m.hasHumanTasks = true ↔ .humanTask ∈ nodesKinds m.nodes := by
  rw [← List.contains_iff_mem, ← anyNode_kind]
  rfl

def opened (statements : List Statement) : List String :=
  statements.filterMap fun
    | .bind _ _ method _ => some method
    | .call .. => none

theorem opened_append (xs ys : List Statement) : opened (xs ++ ys) = opened xs ++ opened ys := List.filterMap_append

theorem opened_call (target method : String) (arguments : List Argument) (rest : List Statement) :
    opened (.call target method arguments :: rest) = opened rest := rfl

theorem opened_calls {target : String} {calls : List Statement} (on : ∀ x ∈ calls, x.isCallOn target = true) :
    opened calls = [] := by
  refine List.filterMap_eq_nil_iff.2 fun x isCall => ?_
  obtain ⟨method, arguments, rfl⟩ := Statement.exists_call (on x isCall)
  rfl

mutual

/-- **The builders that a node opens** are one of its own kind and those of the nodes inside it, in order. -/
theorem opened_nodeStatements (scope : List String) (path : List NodeId) (target : String) (visited : NameSet)
    (n : Node) : opened (nodeStatements scope path target visited n).1 = (nodeKinds n).map NodeKind.builderMethod := by
  match n with
  | .activity info a =>
    let builder := builderName path a.kind info.id
    have calls : opened (openingCalls builder scope visited info ++ activityStatements builder a ++ [doneCall builder]) =
        [] := opened_calls (isCallOn_append (isCallOn_append isCallOn_openingCalls (isCallOn_activityStatements builder a))
          isCallOn_call)
    rw [nodeStatements, nodeKinds]
    exact congrArg (List.cons a.kind.builderMethod) calls
  | .subProcess info nodes connections autoComplete =>
    let builder := builderName path .subProcess info.id
    have opening : opened (openingStatements scope path target visited info .subProcess) =
        [NodeKind.subProcess.builderMethod] :=
      congrArg (List.cons NodeKind.subProcess.builderMethod) (@opened_calls builder _ isCallOn_openingCalls)
    have joined : opened (connections.map (connectionStatement builder)) = [] :=
      opened_calls isCallOn_connectionStatements
    have done : opened [doneCall builder] = [] := rfl
    rw [nodeStatements, nodeKinds, opened_append, opened_append, opening, done, List.append_nil, opened_call,
      opened_append, opened_nodesStatements _ _ _ _ nodes, joined, List.append_nil]
    rfl

theorem opened_nodesStatements (scope : List String) (path : List NodeId) (target : String) (visited : NameSet)
    (ns : List Node) :
    opened (nodesStatements scope path target visited ns).1 = (nodesKinds ns).map NodeKind.builderMethod := by
  match ns with
  | [] => rfl
  | n :: rest =>
    rw [nodesStatements, nodesKinds, opened_append, List.map_append, opened_nodeStatements scope path target visited n,
      opened_nodesStatements _ _ _ _ rest]

end

/-- **The builders that a process opens** are those of its nodes, at every depth, in order. -/
theorem opened_modelStatements (m : ProcessModel) :
    opened (modelStatements (Context.ofProcess m) m).1 = (nodesKinds m.nodes).map NodeKind.builderMethod := by
  have heading : opened (headingCalls "factory" (Context.ofProcess m).scopePath m) = [] :=
    opened_calls isCallOn_headingCalls
  have joined : opened (m.connections.map (connectionStatement "factory")) = [] :=
    opened_calls isCallOn_connectionStatements
  have validated : opened [.call "factory" "validate" []] = [] := rfl
  rw [modelStatements_eq, opened_append, opened_append, opened_append, heading, joined, validated, opened_nodesStatements,
    List.append_nil, List.append_nil, List.nil_append]

/-! ## Declared variables -/

theorem ne_nil_or_iff {vs ws : List Variable} : vs ≠ [] ∨ ws ≠ [] ↔ vs ++ ws ≠ [] := by
  simp only [ne_eq, List.append_eq_nil_iff, not_and_or]

theorem declaresVariables_iff (n : Node) : n.declaresVariables = true ↔ n.info.vars.getD [] ≠ [] := by
  unfold Node.declaresVariables
  cases n.info.vars with
  | none => simp
  | some vs =>
    cases vs with
    | nil => simp
    | cons v rest => simp

mutual

/-- a node declares a variable, itself or by a node inside it, when one of its scopes has one -/
theorem any_declaresVariables (n : Node) : n.any Node.declaresVariables = true ↔ nodeVariables n ≠ [] := by
  match n with
  | .activity info a =>
    rw [Node.any, nodeVariables, declaresVariables_iff]
    rfl
  | .subProcess info nodes connections autoComplete =>
    rw [Node.any, Bool.or_eq_true, declaresVariables_iff, anyNode_declaresVariables nodes, nodeVariables]
    exact ne_nil_or_iff

theorem anyNode_declaresVariables (ns : List Node) :
    anyNode Node.declaresVariables ns = true ↔ nodesVariables ns ≠ [] := by
  match ns with
  | [] => simp [anyNode, nodesVariables]
  | n :: rest =>
    rw [anyNode, Bool.or_eq_true, any_declaresVariables n, anyNode_declaresVariables rest, nodesVariables]
    exact ne_nil_or_iff

end

theorem hasVariables_iff (m : ProcessModel) : m.hasVariables = true ↔ modelVariables m ≠ [] := by
  unfold ProcessModel.hasVariables modelVariables
  rw [Bool.or_eq_true, anyNode_declaresVariables, Bool.not_eq_true', List.isEmpty_eq_false_iff]
  exact ne_nil_or_iff

theorem vars_declarations (builder : String) (vs : List Variable) :
    (vs.map fun v => (⟨builder, v⟩ : Declaration)).map Declaration.var = vs := by
  rw [List.map_map]
  exact List.map_id' vs

/-- the declarations of a process, each scope before those inside it -/
def modelDeclarations (m : ProcessModel) : List Declaration :=
  (m.vars.map fun v => ⟨"factory", v⟩) ++ nodesDeclarations [] m.nodes

theorem vars_modelDeclarations (m : ProcessModel) : (modelDeclarations m).map Declaration.var = modelVariables m := by
  unfold modelDeclarations modelVariables
  rw [List.map_append, vars_nodesDeclarations, vars_declarations]

/-- **The variables that a process declares** are those of its fresh declarations, each on the builder of its owner. -/
theorem declaring_modelStatements (m : ProcessModel) :
    declaring (modelStatements (Context.ofProcess m) m).1 = (freshDeclarations NameSet.empty (modelDeclarations m)).map
      (Declaration.statement (Context.ofProcess m).scopePath) := by
  have header : declaring (headerCalls m "factory") = [] := by
    unfold headerCalls
    rw [declaring_append, declaring_append, declaring_optionalCall (by decide), declaring_optionalCall (by decide),
      declaring_optionalCall (by decide), List.append_nil, List.append_nil]
  have metadata : declaring (metadataCalls "factory" m.metadata) = [] := declaring_entryCalls (by decide) m.metadata
  have joined : declaring (m.connections.map (connectionStatement "factory")) = [] := declaring_map (fun _ => rfl) _
  have validated : declaring [.call "factory" "validate" []] = [] := declaring_call (by decide) []
  unfold modelDeclarations
  rw [freshDeclarations_append, List.map_append, vars_declarations, modelStatements_eq, headingCalls]
  simp only [declaring_append, header, metadata, joined, validated, List.nil_append, List.append_nil, variableCalls_eq,
    declaring_statements, declaring_nodesStatements]

/-- a process declares a variable where one of its scopes has one: the first declaration is always made -/
theorem declaring_eq_nil_iff (m : ProcessModel) :
    declaring (modelStatements (Context.ofProcess m) m).1 = [] ↔ modelVariables m = [] := by
  rw [declaring_modelStatements, List.map_eq_nil_iff, ← vars_modelDeclarations, List.map_eq_nil_iff]
  cases modelDeclarations m with
  | nil => exact Iff.rfl
  | cons d rest =>
    -- no name is taken yet when the first declaration is met
    rw [freshDeclarations_of_free (by simp)]
    simp

/-! ## Texts -/

/-- a statement stands in the file of its process -/
theorem occurs_statement {p : Program} {s : Statement} (isStatement : s ∈ p.statements) : Occurs s.tokens p.tokens := by
  have inBody : Occurs s.tokens p.body := by
    apply (Occurs.of_mem_flatMap Statement.tokens (Occurs.here List.infix_rfl) isStatement).among
    exact ⟨openingTokens p, resultTokens p, rfl⟩
  unfold Program.tokens
  apply Occurs.inside (List.mem_append_right _ (List.mem_cons_of_mem _ (List.mem_cons_of_mem _ List.mem_cons_self)))
  exact Occurs.inside (List.mem_append_right _ (List.mem_cons_of_mem _ List.mem_cons_self)) inBody

/-- **What is called in a file.** The method of a statement that stands in the file of a process is that of one of the
statements of the process, or the method that yields it. -/
theorem method_of_occurs {p : Program} {s : Statement} (h : Occurs s.tokens p.tokens) :
    s.method = "get_process" ∨ ∃ x ∈ p.statements, x.method = s.method := by
  -- the method stands behind the dot of the statement, and so behind one of the dots of the file
  have behindDot : Token.word s.method ∈ followersIn isDot p.tokens := by
    apply h.followers isDot
    rw [followers_statement]
    exact List.mem_cons_self
  rw [followers_program] at behindDot
  rcases List.mem_append.1 behindDot with called | yields
  · obtain ⟨x, isStatement, same⟩ := List.mem_map.1 called
    exact Or.inr ⟨x, isStatement, Token.word.inj same⟩
  · exact Or.inl (Token.word.inj (List.mem_singleton.1 yields))

/-- a text that opens a builder by a method of some builder -/
def OpensBy (content method : String) : Prop :=
  ∃ name target, ∃ id : NodeId, Contains content [.word "let", .word name, .mark '=', .word target, .mark '.',
    .word method, .parens [.literal (toString id.toNat ++ "u64")], .mark ';']

/-- a text that declares a variable, on some builder -/
def DeclaresVariable (content : String) : Prop :=
  ∃ target, ∃ arguments : List Argument, Contains content [.word target, .mark '.', .word "variable",
    .parens (Token.separated (arguments.map Argument.tokens)), .mark ';']

section Texts

variable {kinds : Kinds} {m : ProcessModel} {runtime content : String}

/-- what the text of the file of a process contains is what stands in its tokens, the statements of the process among
them -/
theorem contains_compileText (h : compileText m kinds runtime = .ok content) :
    ∃ p : Program, p.statements = (modelStatements (Context.ofProcess m) m).1 ∧
      ∀ row, Contains content row ↔ Occurs row p.tokens := by
  obtain ⟨p, compiled, rfl⟩ := map_eq_ok_iff.1 h
  refine ⟨p, ?_, fun row => contains_iff (trees_text (printable_program (spells_compile compiled)))⟩
  rw [compile_eq compiled]

/-- **Opened builders.** The text of a process that is translated opens a builder of a kind where the process has a node
of that kind, at some depth. -/
theorem opensBy_iff (h : compileText m kinds runtime = .ok content) (kind : NodeKind) :
    OpensBy content kind.builderMethod ↔ anyNode (fun n => n.kind == kind) m.nodes = true := by
  obtain ⟨p, statements, contained⟩ := contains_compileText h
  rw [anyNode_kind, List.contains_iff_mem]
  constructor
  · rintro ⟨name, target, id, inText⟩
    have occurs : Occurs (Statement.bind name target kind.builderMethod id).tokens p.tokens := (contained _).1 inText
    rcases method_of_occurs occurs with yields | ⟨x, isStatement, same⟩
    · -- the method that yields the process opens no builder
      have opens := opensBuilder_builderMethod kind
      rw [show kind.builderMethod = "get_process" from yields] at opens
      exact absurd opens (by decide)
    · rw [statements] at isStatement
      have fits := methodFits_modelStatements m x isStatement
      -- a binding opens the builder of some kind, and methods tell kinds apart; a call opens no builder
      cases x with
      | bind other on method number =>
        obtain ⟨known, rfl⟩ := fits
        obtain rfl := builderMethod_inj same
        have isOpened : known.builderMethod ∈ opened (modelStatements (Context.ofProcess m) m).1 :=
          List.mem_filterMap.2 ⟨_, isStatement, rfl⟩
        rw [opened_modelStatements] at isOpened
        obtain ⟨found, isKind, sameMethod⟩ := List.mem_map.1 isOpened
        exact builderMethod_inj sameMethod ▸ isKind
      | call on method arguments =>
        have opens := opensBuilder_builderMethod kind
        rw [← show method = kind.builderMethod from same, show opensBuilder method = false from fits] at opens
        cases opens
  · intro isKind
    have isOpened : kind.builderMethod ∈ opened (modelStatements (Context.ofProcess m) m).1 := by
      rw [opened_modelStatements]
      exact List.mem_map_of_mem isKind
    obtain ⟨x, isStatement, opens⟩ := List.mem_filterMap.1 isOpened
    cases x with
    | bind name target method id =>
      obtain rfl := Option.some.inj opens
      rw [← statements] at isStatement
      exact ⟨name, target, id, (contained _).2 (occurs_statement isStatement)⟩
    | call target method arguments => cases opens

/-- **Declared variables.** The text of a process that is translated declares a variable where a scope of the process has
one, at some depth. -/
theorem declaresVariable_iff (h : compileText m kinds runtime = .ok content) :
    DeclaresVariable content ↔ m.hasVariables = true := by
  obtain ⟨p, statements, contained⟩ := contains_compileText h
  rw [hasVariables_iff, ne_eq, ← declaring_eq_nil_iff, ← statements]
  constructor
  · rintro ⟨target, arguments, inText⟩ none
    have occurs : Occurs (Statement.call target "variable" arguments).tokens p.tokens := (contained _).1 inText
    rcases method_of_occurs occurs with yields | ⟨x, isStatement, same⟩
    · exact absurd yields (by decide : "variable" ≠ "get_process")
    · have other := List.filter_eq_nil_iff.1 none x isStatement
      rw [statements] at isStatement
      have fits := methodFits_modelStatements m x isStatement
      cases x with
      | bind name on method id =>
        obtain ⟨kind, rfl⟩ := fits
        -- the method of a binding opens a builder, and none of those is spelled like this one
        have opens := opensBuilder_builderMethod kind
        rw [show kind.builderMethod = "variable" from same] at opens
        exact absurd opens (by decide)
      | call on method values => exact other (decide_eq_true same)
  · intro some
    obtain ⟨x, declared⟩ := List.exists_mem_of_ne_nil _ some
    obtain ⟨isStatement, declares⟩ := List.mem_filter.1 declared
    cases x with
    | bind name target method id => cases declares
    | call target method arguments =>
      obtain rfl : method = "variable" := of_decide_eq_true declares
      exact ⟨target, arguments, (contained _).2 (occurs_statement isStatement)⟩

end Texts

end Translation
end ProcessBuild
