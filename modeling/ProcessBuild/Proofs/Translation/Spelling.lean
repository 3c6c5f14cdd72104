/-
The generated file of a process as source text. Every statement that a translation emits names nothing but identifiers,
so the file is read back from its text and read as its items, whatever the texts of the process are.
- `spells_modelStatements`: the statements of a process.
- `printable_program`, `readFile_program`: the file.
- `readFile_compileText`: what the file of a process is read as, and where it is refused.
-/
import ProcessBuild.Proofs.Builder.Spelling
import ProcessBuild.Proofs.Source.Functions
import ProcessBuild.Proofs.Translation.BuilderName

namespace ProcessBuild.Translation

open Source Builder Grammar

/-! ## Names -/

/-- **The name of a builder** is an identifier. -/
theorem identifier_builderName (path : List NodeId) (kind : NodeKind) (id : NodeId) :
    Identifier (builderName path kind id) := by
  refine ⟨isName_identifierOf _, isFreeWord_of_digit ?_⟩
  have filled : idDigits id ≠ [] := by
    intro empty
    have core : Nat.toDigits 10 id.toNat = [] := by
      rw [← Nat.toList_repr]
      exact empty
    exact Nat.toDigits_ne_nil core
  obtain ⟨d, rest, digits⟩ := List.exists_cons_of_ne_nil filled
  have inTrail : d ∈ trail path id := by
    refine List.mem_flatMap.2 ⟨id, List.mem_append_right _ (List.mem_singleton.2 rfl), List.mem_cons_of_mem _ ?_⟩
    rw [digits]
    exact List.mem_cons_self
  have digit : Text.isDigit d = true := isDigit_of_mem_toString (by
    show d ∈ idDigits id
    rw [digits]
    exact List.mem_cons_self)
  rw [toList_builderName]
  exact List.any_eq_true.2 ⟨d, List.mem_append_right _ inTrail, digit⟩

theorem identifier_builderMethod (kind : NodeKind) : Identifier kind.builderMethod := by
  cases kind with
  | start => exact identifier_of_text rfl
  | finish => exact identifier_of_text rfl
  | action => exact identifier_of_text rfl
  | workItem => exact identifier_of_text rfl
  | humanTask => exact identifier_of_text rfl
  | split => exact identifier_of_text rfl
  | join => exact identifier_of_text rfl
  | event => exact identifier_of_text rfl
  | timer => exact identifier_of_text rfl
  | boundaryEvent => exact identifier_of_text rfl
  | subProcess => exact identifier_of_text rfl

/-! ## Statements -/

section Statements

variable {target type : String} {scope : List String}

def namesNoType : Argument → Bool
  | .dataType _ _ => false
  | _ => true

theorem spells_plain {a : Argument} (h : namesNoType a = true) : a.Spells := by
  cases a with
  | dataType typeName scope => cases h
  | _ => trivial

theorem spells_call {method : String} {arguments : List Argument} (isTarget : Identifier target)
    (isMethod : (isNameText method && isFreeWord method) = true) (h : arguments.all namesNoType = true) :
    (Statement.call target method arguments).Spells :=
  ⟨isTarget, identifier_of_text isMethod, fun a ha => spells_plain (List.all_eq_true.1 h a ha)⟩

theorem spells_optionalCall {method : String} {value : Option String} (isTarget : Identifier target)
    (isMethod : (isNameText method && isFreeWord method) = true) :
    ∀ s ∈ optionalCall target method value, s.Spells := by
  intro s hs
  obtain ⟨text, -, rfl⟩ := List.mem_map.1 hs
  exact spells_call isTarget isMethod rfl

theorem namesNoType_valueArgument {v : MetadataValue} {a : Argument} (h : valueArgument v = some a) :
    namesNoType a = true := by
  unfold valueArgument at h
  split at h
  all_goals cases h
  all_goals rfl

theorem spells_entryCalls {method : String} {m : Metadata} (isTarget : Identifier target)
    (isMethod : (isNameText method && isFreeWord method) = true) : ∀ s ∈ entryCalls target method m, s.Spells := by
  intro s hs
  obtain ⟨e, -, he⟩ := List.mem_filterMap.1 hs
  obtain ⟨value, found, rfl⟩ := Option.map_eq_some_iff.1 he
  refine spells_call isTarget isMethod ?_
  simp only [List.all_cons, namesNoType_valueArgument found]
  rfl

theorem spells_variableCalls {visited : NameSet} {vs : List Variable} (isTarget : Identifier target)
    (isType : Identifier type) : ∀ s ∈ (variableCalls target [type] visited vs).1, s.Spells := by
  have one : ∀ v : Variable, (variableCall target [type] v).Spells := by
    intro v
    refine ⟨isTarget, identifier_of_text rfl, fun a ha => ?_⟩
    simp only [List.mem_cons, List.not_mem_nil, or_false] at ha
    rcases ha with rfl | rfl | rfl | rfl
    · trivial
    · exact ⟨type, rfl, isType⟩
    · trivial
    · trivial
  induction vs generalizing visited with
  | nil => exact List.forall_mem_nil _
  | cons v vs ih =>
    rw [variableCalls]
    split
    · exact ih
    · exact List.forall_mem_cons.2 ⟨one v, ih⟩

theorem spells_activityStatements (isTarget : Identifier target) (a : Activity) :
    ∀ s ∈ activityStatements target a, s.Spells := by
  cases a with
  | start trigger => exact spells_optionalCall isTarget rfl
  | finish terminate => exact List.forall_mem_singleton.2 (spells_call isTarget rfl rfl)
  | action dialect script => exact List.forall_mem_singleton.2 (spells_call isTarget rfl rfl)
  | workItem workName parameters =>
    exact List.forall_mem_cons.2 ⟨spells_call isTarget rfl rfl, spells_entryCalls isTarget rfl⟩
  | humanTask taskName actorId groupId =>
    exact List.forall_mem_append.2 ⟨List.forall_mem_cons.2
      ⟨spells_call isTarget rfl rfl, spells_optionalCall isTarget rfl⟩, spells_optionalCall isTarget rfl⟩
  | split gateway constraints =>
    refine List.forall_mem_cons.2 ⟨spells_call isTarget rfl rfl, fun s hs => ?_⟩
    obtain ⟨x, -, rfl⟩ := List.mem_map.1 hs
    exact spells_call isTarget rfl rfl
  | join gateway => exact List.forall_mem_singleton.2 (spells_call isTarget rfl rfl)
  | event eventType variableName =>
    exact List.forall_mem_cons.2 ⟨spells_call isTarget rfl rfl, spells_optionalCall isTarget rfl⟩
  | timer delay period =>
    exact List.forall_mem_append.2 ⟨spells_optionalCall isTarget rfl, spells_optionalCall isTarget rfl⟩
  | boundaryEvent eventType attachedTo cancelActivity =>
    exact List.forall_mem_cons.2 ⟨spells_call isTarget rfl rfl, List.forall_mem_cons.2
      ⟨spells_call isTarget rfl rfl, List.forall_mem_singleton.2 (spells_call isTarget rfl rfl)⟩⟩

theorem spells_connections (isTarget : Identifier target) (xs : List Connection) :
    ∀ s ∈ xs.map (connectionStatement target), s.Spells := by
  intro s hs
  obtain ⟨x, -, rfl⟩ := List.mem_map.1 hs
  exact spells_call isTarget rfl rfl

theorem spells_openingStatements {path : List NodeId} {visited : NameSet} {info : NodeInfo} {kind : NodeKind}
    (isTarget : Identifier target) (isType : Identifier type) :
    ∀ s ∈ openingStatements [type] path target visited info kind, s.Spells := by
  have builder := identifier_builderName path kind info.id
  refine List.forall_mem_append.2 ⟨List.forall_mem_append.2 ⟨List.forall_mem_cons.2
    ⟨⟨builder, isTarget, identifier_builderMethod kind⟩, spells_optionalCall builder rfl⟩, ?_⟩, ?_⟩
  · exact spells_entryCalls builder rfl
  · exact spells_variableCalls builder isType

theorem spells_done (isTarget : Identifier target) : ∀ s ∈ [doneCall target], s.Spells :=
  List.forall_mem_singleton.2 (spells_call isTarget rfl rfl)

end Statements

mutual

theorem spells_nodeStatements {type : String} (isType : Identifier type) (path : List NodeId) (target : String)
    (isTarget : Identifier target) (visited : NameSet) (n : Node) :
    ∀ s ∈ (nodeStatements [type] path target visited n).1, s.Spells :=
  match n with
  | .activity info a => by
    have builder := identifier_builderName path a.kind info.id
    rw [nodeStatements]
    exact List.forall_mem_append.2 ⟨List.forall_mem_append.2
      ⟨spells_openingStatements isTarget isType, spells_activityStatements builder a⟩, spells_done builder⟩
  | .subProcess info nodes connections autoComplete => by
    have builder := identifier_builderName path .subProcess info.id
    have inner := spells_nodesStatements isType (path ++ [info.id]) _ builder
      (visitedAfter visited (info.vars.getD [])) nodes
    rw [nodeStatements]
    refine List.forall_mem_append.2 ⟨List.forall_mem_append.2 ⟨spells_openingStatements isTarget isType,
      List.forall_mem_cons.2 ⟨?_, ?_⟩⟩, spells_done builder⟩
    · exact spells_call builder rfl rfl
    · exact List.forall_mem_append.2 ⟨inner, spells_connections builder connections⟩

theorem spells_nodesStatements {type : String} (isType : Identifier type) (path : List NodeId) (target : String)
    (isTarget : Identifier target) (visited : NameSet) (ns : List Node) :
    ∀ s ∈ (nodesStatements [type] path target visited ns).1, s.Spells :=
  match ns with
  | [] => by
    rw [nodesStatements]
    exact List.forall_mem_nil _
  | n :: rest => by
    rw [nodesStatements]
    exact List.forall_mem_append.2 ⟨spells_nodeStatements isType path target isTarget visited n,
      spells_nodesStatements isType path target isTarget _ rest⟩

end

/-- **Every statement of a process** names nothing but identifiers. -/
theorem spells_modelStatements (m : ProcessModel) :
    ∀ s ∈ (modelStatements (Context.ofProcess m) m).1, s.Spells := by
  have factory : Identifier "factory" := identifier_of_text rfl
  have isType := identifier_processTypeName m.id
  have scope : (Context.ofProcess m).scopePath = [processTypeName m.id] := pathSegments_processTypeName m.id
  have header : ∀ s ∈ headerCalls m "factory", s.Spells := List.forall_mem_append.2 ⟨List.forall_mem_append.2
    ⟨spells_optionalCall factory rfl, spells_optionalCall factory rfl⟩, spells_optionalCall factory rfl⟩
  unfold modelStatements
  rw [scope]
  refine List.forall_mem_append.2 ⟨List.forall_mem_append.2 ⟨List.forall_mem_append.2 ⟨List.forall_mem_append.2
    ⟨header, ?_⟩, ?_⟩, List.forall_mem_append.2 ⟨?_, ?_⟩⟩, ?_⟩
  · exact spells_entryCalls factory rfl
  · exact spells_variableCalls factory isType
  · exact spells_nodesStatements isType _ _ factory _ m.nodes
  · exact spells_connections factory m.connections
  · exact List.forall_mem_singleton.2 (spells_call factory rfl rfl)

/-! ## Files -/

/-- what is needed of a generated file for its names to be names -/
structure Program.Spells (p : Program) : Prop where
  runtime : IsName p.runtime.toList
  type : Identifier p.typeName
  factory : Identifier p.factory
  statements : ∀ s ∈ p.statements, s.Spells

/-- the statement that opens the factory -/
def openingTokens (p : Program) : List Token :=
  [Token.word "let", .word p.factory, .mark '='] ++ ((Token.path ["ProcessFactory", "create_process"] ++
    [Token.parens (Token.separated [[.string p.processId]])]) ++ [Token.mark ';'])

/-- what the body of `build` ends in -/
def resultTokens (p : Program) : List Token :=
  .word p.factory :: .mark '.' :: [.word "get_process", .parens (Token.separated [])]

theorem body_eq (p : Program) :
    p.body = (openingTokens p :: p.statements.map Statement.tokens).flatMap id ++ resultTokens p := by
  rw [List.flatMap_cons, List.flatMap_map]
  rfl

/-- **The body of `build`** is read to its end. -/
theorem isBody_program {p : Program} (h : p.Spells) : IsBody 10 p.body := by
  have create : IsOperand 3 (Token.path ["ProcessFactory", "create_process"] ++
      [Token.parens (Token.separated [[.string p.processId]])]) :=
    isOperand_call (by decide) (List.forall_mem_singleton.2 (isOperand_literal _)) Nat.one_pos
  have opening : IsStatement 8 (openingTokens p) := (isStatement_let h.factory.free create (by decide)).mono (by decide)
  have statements : ∀ ts ∈ openingTokens p :: p.statements.map Statement.tokens, IsStatement 8 ts := by
    refine List.forall_mem_cons.2 ⟨opening, fun ts hts => ?_⟩
    obtain ⟨s, hs, rfl⟩ := List.mem_map.1 hts
    exact isStatement_statement (h.statements s hs)
  have noArguments : ∀ ts ∈ ([] : List (List Token)), IsOperand 1 ts := List.forall_mem_nil _
  have result : IsOperand 8 (resultTokens p) :=
    (isOperand_methodCall h.factory.free rfl noArguments Nat.one_pos).mono (by decide)
  refine ⟨rfl, fun n deep => ?_⟩
  rw [body_eq]
  exact readsAll_body statements h.factory.free result (by decide) (by omega)

/-- **The body of `build`** is read back from its text. -/
theorem printable_body {p : Program} (h : p.Spells) : Printable p.body := by
  have words : ∀ w ∈ ["let", "ProcessFactory", "create_process", "get_process"], IsName w.toList := by
    have text : ∀ w ∈ ["let", "ProcessFactory", "create_process", "get_process"], isNameText w = true := by decide
    exact fun w hw => isName_of_text (text w hw)
  have factory := printable_word h.factory.name
  have opening : Printable (openingTokens p) :=
    (printable_word (words _ (by decide))).append (factory.append ((printable_mark rfl).append
      (((printable_path fun w hw => words w (by revert w; decide)).append
        (printable_group (printable_string p.processId))).append (printable_mark rfl))))
  have result : Printable (resultTokens p) :=
    factory.append ((printable_mark rfl).append ((printable_word (words _ (by decide))).append
      (printable_group (printable_nil.2 trivial))))
  rw [body_eq, List.flatMap_cons, List.flatMap_map]
  exact (opening.append (printable_statements h.statements)).append result

/-- the tokens of a generated file by its items, and the items -/
def Program.chunks (p : Program) : List (List Token × Item) := [
  (.word "use" :: (Token.word p.runtime :: (Token.pathSeparator ++ Token.word "prelude" ::
      (Token.pathSeparator ++ [Token.mark '*'])) ++
      [Token.mark ';']), .use false (.path p.runtime (.path "prelude" .glob))),
  (marking "doc" (Text.literal (" Builder for the `" ++ p.processId ++ "` process.")) ++
      [Token.word "pub", .word "struct", .word p.typeName, .mark ';'], .struct p.typeName),
  ([.word "impl", .word "ProcessScope", .word "for", .word p.typeName,
      .braces (constantTokens false "PROCESS_ID" (Text.literal p.processId))],
    .impl ⟨false, ⟨false, ["ProcessScope"]⟩, some ⟨false, [p.typeName]⟩, []⟩),
  ([.word "impl", .word p.typeName, .braces
      (marking "doc" ("r\"" ++ " Build the executable process definition." ++ "\"") ++
      Token.word "pub" :: ([Token.word "fn", .word "build", .parens []] ++ arrow ++
        [Token.word "Process"] ++ [Token.braces p.body]))],
    .other)]

theorem tokens_program (p : Program) : p.tokens = p.chunks.flatMap Prod.fst := by
  simp only [Program.chunks, List.flatMap_cons, List.flatMap_nil]
  rfl

/-- **A generated file** is made of its items where its runtime can be used. -/
theorem isItem_program {p : Program} (h : p.Spells) (starts : startsBranch p.runtime = true) :
    ∀ x ∈ p.chunks, IsItem x.1 x.2 := by
  have branch : IsBranch true 4 (.word p.runtime :: (Token.pathSeparator ++ Token.word "prelude" ::
      (Token.pathSeparator ++ [Token.mark '*']))) (.path p.runtime (.path "prelude" .glob)) :=
    (isBranch_path starts (isBranch_path rfl isBranch_glob)).mono (by decide)
  have constants : ∀ x ∈ [(constantTokens false "PROCESS_ID" (Text.literal p.processId), (none : Option (Option Path)))],
      IsImplItem x.1 x.2 := List.forall_mem_singleton.2 (isImplItem_constant false _ .processId)
  have functions : ∀ x ∈ [(marking "doc" ("r\"" ++ " Build the executable process definition." ++ "\"") ++
      Token.word "pub" ::
      ([Token.word "fn", .word "build", .parens []] ++ arrow ++ [Token.word "Process"] ++ [Token.braces p.body]),
        (none : Option (Option Path)))], IsImplItem x.1 x.2 :=
    List.forall_mem_singleton.2 (isImplItem_documentedFunction _ (isSignature_build.mono (by decide))
      (isBody_program h) (by decide))
  refine List.forall_mem_cons.2 ⟨(isItem_use branch).item, List.forall_mem_cons.2
    ⟨(isItem_struct h.type.free).attributed (.doc _), List.forall_mem_cons.2
      ⟨(isItem_impl rfl h.type.free constants).item, List.forall_mem_singleton.2 ?_⟩⟩⟩
  exact (isItem_inherent h.type.free functions).item

/-- **A generated file** is read back from its text. -/
theorem printable_program {p : Program} (h : p.Spells) : Printable p.tokens := by
  have runtime := printable_word h.runtime
  have type := printable_word h.type.name
  have doc : IsName "doc".toList := isName_of_text rfl
  rw [tokens_program]
  refine printable_flatMap (List.forall_mem_cons.2 ⟨?_, List.forall_mem_cons.2 ⟨?_, List.forall_mem_cons.2
    ⟨?_, List.forall_mem_singleton.2 ?_⟩⟩⟩)
  · exact (printable_of_isPlain [.word "use"] rfl).append (runtime.append (printable_of_isPlain (Token.pathSeparator ++
      Token.word "prelude" :: (Token.pathSeparator ++ [Token.mark '*', .mark ';'])) rfl))
  · exact printable_marking doc (isLiteral_string _) ((printable_of_isPlain [.word "pub", .word "struct"] rfl).append
      (type.append (printable_mark rfl)))
  · exact (printable_of_isPlain [.word "impl", .word "ProcessScope", .word "for"] rfl).append (type.append
      (printable_group (printable_constant rfl p.processId)))
  · exact (printable_of_isPlain [.word "impl"] rfl).append (type.append (printable_group (printable_marking doc
      (isLiteral_raw (forall_chars (by decide)))
        ((printable_of_isPlain ([Token.word "pub", .word "fn", .word "build", .parens []] ++ arrow ++
        [Token.word "Process"]) rfl).append (printable_group (printable_body h))))))

theorem startsPlain_program (p : Program) : startsPlain (text p.tokens).toList = true := by
  unfold text
  rw [String.toList_ofList]
  rfl

/-- **The text of a generated file** is read as its items where its runtime can be used, and refused elsewhere. -/
theorem readFile_program {p : Program} (h : p.Spells) :
    if startsBranch p.runtime then readFile (text p.tokens) = .ok (p.chunks.map Prod.snd)
    else ∃ fault, readFile (text p.tokens) = .error fault := by
  obtain ⟨trees, lexed, tokens⟩ := trees_text (printable_program h)
  have plain := startsPlain_program p
  split
  · rename_i starts
    refine readFile_of_items plain lexed ?_ .none (isItem_program h starts)
    rw [tokens, tokens_program, List.nil_append]
  · rename_i starts
    exact @readFile_of_refused _ _ [] _ [] plain lexed tokens .none (List.forall_mem_nil _)
      (isRefused_use _ (eq_false_of_ne_true starts))

/-! ## Translated processes -/

def processItems (runtime id : String) : List Item := [
  .use false (.path runtime (.path "prelude" .glob)),
  .struct (processTypeName id),
  .impl ⟨false, ⟨false, ["ProcessScope"]⟩, some ⟨false, [processTypeName id]⟩, []⟩,
  .other]

theorem spells_compile {kinds : Kinds} {m : ProcessModel} {runtime : String} {p : Program}
    (h : compile m kinds runtime = .ok p) : p.Spells := by
  have factory : Identifier "factory" := identifier_of_text rfl
  rw [compile_eq h, identifierOf_processTypeName]
  exact {
    runtime := isName_identifierOf runtime
    type := identifier_processTypeName m.id
    factory
    statements := spells_modelStatements m }

/-- **A process that is translated** has the text of a file with its type and the implementation of its scope, where the
runtime can be used; elsewhere its text is refused. -/
theorem readFile_compileText {kinds : Kinds} {m : ProcessModel} {runtime content : String}
    (h : compileText m kinds runtime = .ok content) :
    if startsBranch (identifierOf runtime) then readFile content = .ok (processItems (identifierOf runtime) m.id)
    else ∃ fault, readFile content = .error fault := by
  obtain ⟨p, compiled, rfl⟩ := map_eq_ok_iff.1 h
  have whole := compile_eq compiled
  rw [identifierOf_processTypeName] at whole
  have read := readFile_program (spells_compile compiled)
  rw [whole] at read ⊢
  exact read

/-- **A file of a process that is accepted** has the items of the process, and the runtime can be used. -/
theorem items_of_readFile {kinds : Kinds} {m : ProcessModel} {runtime content : String} {items : List Item}
    (h : compileText m kinds runtime = .ok content) (read : readFile content = .ok items) :
    startsBranch (identifierOf runtime) = true ∧ items = processItems (identifierOf runtime) m.id := by
  have known := readFile_compileText h
  split at known
  · rename_i starts
    exact ⟨starts, Except.ok.inj (read.symm.trans known)⟩
  · obtain ⟨fault, refused⟩ := known
    cases read.symm.trans refused

end ProcessBuild.Translation
