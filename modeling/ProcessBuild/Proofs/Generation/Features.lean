/-
What the files of a process tell of its human tasks and variables. The event file and the resource file are made after a
search through the nodes of the process, the process file by a translation of all of them; each sees the nodes at every
depth, and variables where a scope has any, however often they are declared.
- `declaresEvent_iff`: an event file declares the events of its process and no other.
- `hasRoute_iff`: a resource file has the task routes where the process has a human task.
- `features_agree`: the three files of a process agree.
-/
import Mathlib.Data.List.TFAE
import Mathlib.Tactic.TFAE
import ProcessBuild.Proofs.Generation.Events
import ProcessBuild.Proofs.Generation.Gathering
import ProcessBuild.Proofs.Generation.Rest
import ProcessBuild.Proofs.Source.LiteralValue
import ProcessBuild.Proofs.Translation.Methods

namespace ProcessBuild.Generation

open Source Grammar Lexer

/-! ## Event files -/

/-- a text that declares a structure -/
def DeclaresStruct (content name : String) : Prop := Contains content [.word "struct", .word name]

/-- the word in front of the name of a structure -/
def isStruct : Token → Bool
  | .word name => name = "struct"
  | _ => false

theorem ne_struct {w : String} (h : Identifier w) : w ≠ "struct" := by
  rintro rfl
  exact absurd h.free (by decide)

/-- the structure of a declaration is the type of its event -/
theorem structs_pieces {e : EventType} (h : e.Spells) (processId : String) :
    followersIn isStruct (tokensAll (e.pieces processId)) = [.word (e.typeName processId)] := by
  have name := ne_struct (h.typeName processId)
  have envelope := ne_struct h.envelope
  unfold EventType.pieces
  -- the comment is read as one literal, whatever the id in it is
  generalize e.comment processId = comment
  simp [tokensAll, Piece.tokens, gap, space, docTokens, Token.lifetime, Token.mark, Token.brackets, Token.string,
    followersIn, Token.followers, isStruct, name, envelope]

/-- the imports name no structure; the name of the runtime may itself be the word -/
theorem structs_imports (runtime : String) (m : ProcessModel) :
    followersIn isStruct (tokensAll (importPieces runtime m)) ⊆ [.punct ':' true] := by
  unfold importPieces eventTypes
  generalize " Data events of the `".toList ++ _ = comment
  cases m.hasHumanTasks
  all_goals cases m.hasVariables
  all_goals
    by_cases isWord : runtime = "struct"
    all_goals simp [tokensAll, Piece.tokens, gap, space, docTokens, Token.mark, Token.brackets, Token.string, followersIn,
      Token.followers, isStruct, instanceEvent, userTaskEvent, variableEvent, isWord]

/-- the events that a process can have -/
def allEvents : List EventType := [instanceEvent, userTaskEvent, variableEvent]

/-- events are told from each other by their types -/
theorem typeName_inj {e other : EventType} (h : e ∈ allEvents) (k : other ∈ allEvents) {processId : String}
    (same : e.typeName processId = other.typeName processId) : e = other := by
  have endings : ∀ e ∈ allEvents, ∀ other ∈ allEvents, e.ending = other.ending → e = other := by decide
  apply endings e h other k
  unfold EventType.typeName at same
  rw [← String.toList_inj, String.toList_append, String.toList_append] at same
  exact String.toList_inj.1 (List.append_cancel_left same)

/-- **An event file declares the events of its process**, and no other event. -/
theorem declaresEvent_iff {runtime : String} (name : IsName runtime.toList) (m : ProcessModel) {e : EventType}
    (known : e ∈ allEvents) : DeclaresStruct (eventsSource runtime m) (e.typeName m.id) ↔ e ∈ eventTypes m := by
  have read := trees_layout (fits_events name m)
  rw [← toList_eventsSource] at read
  unfold DeclaresStruct
  rw [contains_iff read, eventsPieces, tokensAll_append, tokensAll_flatMap]
  constructor
  · -- the structure that the row names is one of those that the file names, so its event is one of the process
    intro occurs
    have named : Token.word (e.typeName m.id) ∈ followersIn isStruct (tokensAll (importPieces runtime m) ++
        (eventTypes m).flatMap fun e => tokensAll (e.pieces m.id)) :=
      occurs.followers isStruct List.mem_cons_self
    rw [followersIn_append, followersIn_flatMap] at named
    · rcases List.mem_append.1 named with inImports | inEvents
      · cases List.mem_singleton.1 (structs_imports runtime m inImports)
      · obtain ⟨other, isEvent, own⟩ := List.mem_flatMap.1 inEvents
        rw [structs_pieces (spells_eventTypes other isEvent)] at own
        have same := Token.word.inj (List.mem_singleton.1 own)
        exact typeName_inj known (mem_allEvents isEvent) same ▸ isEvent
    · intro other _ t isLast
      cases isLast
      rfl
    · intro t isLast
      cases isLast
      rfl
  · intro isEvent
    have here : Occurs [.word "struct", .word (e.typeName m.id)] (tokensAll (e.pieces m.id)) :=
      .here ⟨docTokens false (e.comment m.id) ++ [.word "pub"], _, rfl⟩
    have inEvents := Occurs.of_mem_flatMap (fun e : EventType => tokensAll (e.pieces m.id)) here isEvent
    exact inEvents.among (List.suffix_append _ _).isInfix

/-! ## Resource files -/

/-- a text that contains a route -/
def HasRoute (content method path operation : String) : Prop :=
  Contains content (Token.path ["Route", "new"] ++ [Token.parens (Token.path ["Method", method] ++
    [.mark ',', .string path, .mark ',', .string operation])])

def Route.tokens (r : Route) (processId : String) : List Token :=
  Token.path ["Route", "new"] ++ [Token.parens (Token.path ["Method", r.method] ++
    [.mark ',', .string (basePath processId ++ r.tail), .mark ',', .string r.operation])]

/-- a text that contains a route of a process -/
def Route.IsIn (r : Route) (content processId : String) : Prop := Contains content (r.tokens processId)

/-- the comma in front of what follows an entry -/
def isComma : Token → Bool
  | .punct c _ => c == ','
  | _ => false

/-- a route of a process stands in its resource file -/
theorem occurs_route {m : ProcessModel} {r : Route} (runtime : String) (isRoute : r ∈ routes m)
    (known : r ∈ instanceRoutes ++ taskRoutes) : Occurs (r.tokens m.id) (tokensAll (restPieces runtime m)) := by
  have written : Occurs (r.tokens m.id) (tokensAll (r.pieces m.id)) := by
    unfold Route.tokens Token.string
    rw [literal_operation r known]
    exact .here ⟨[], [.mark ','], rfl⟩
  have inList : Occurs (r.tokens m.id) (routeTokens m) := by
    rw [routeTokens, tokensAll_flatMap]
    exact Occurs.of_mem_flatMap (fun r : Route => tokensAll (r.pieces m.id)) written isRoute
  have inRoutes : Occurs (r.tokens m.id) [.word "vec", .mark '!', .brackets (routeTokens m)] :=
    .inside (List.mem_cons_of_mem _ (List.mem_cons_of_mem _ List.mem_cons_self)) inList
  have last : ∀ {a b c d e : List Token × Item}, e ∈ [a, b, c, d, e] := by simp
  rw [tokens_rest]
  refine Occurs.among (Occurs.of_mem_flatMap Prod.fst ?_ last) (List.suffix_append _ _).isInfix
  apply Occurs.inside (List.mem_cons_of_mem _ (List.mem_cons_of_mem _ (List.mem_cons_of_mem _ (List.mem_cons_of_mem _
    List.mem_cons_self))))
  exact Occurs.inside (List.mem_append_right _ (List.mem_append_right _ List.mem_cons_self)) inRoutes

/-- what stands behind the commas of a resource file -/
theorem commas_rest (runtime : String) (m : ProcessModel) :
    followersIn isComma (tokensAll (restPieces runtime m)) = .word "RestResource" :: (routes m).flatMap fun r =>
      [.word "Route", .string (basePath m.id ++ r.tail), .literal ("\"" ++ r.operation ++ "\"")] := by
  unfold restPieces routes
  cases m.hasHumanTasks <;> rfl

theorem known_routes {m : ProcessModel} : ∀ r ∈ routes m, r ∈ instanceRoutes ++ taskRoutes := by
  unfold routes
  cases m.hasHumanTasks <;> decide

/-- **A resource file has the routes of its process**, and no other of the routes that a process can have. -/
theorem hasRoute_iff {runtime : String} (name : IsName runtime.toList) (m : ProcessModel) {r : Route}
    (known : r ∈ instanceRoutes ++ taskRoutes) : r.IsIn (restSource runtime m) m.id ↔ r ∈ routes m := by
  have read := trees_layout (fits_rest name m)
  rw [← toList_restSource] at read
  unfold Route.IsIn
  rw [contains_iff read]
  refine ⟨fun occurs => ?_, fun isRoute => occurs_route runtime isRoute known⟩
  -- the operation of the route stands behind a comma, where the file has the operations of its own routes
  have behindComma : Token.string r.operation ∈ followersIn isComma (tokensAll (restPieces runtime m)) := by
    apply occurs.followers isComma
    have behind : followersIn isComma (r.tokens m.id) = [.string (basePath m.id ++ r.tail), .string r.operation] := rfl
    rw [behind]
    exact List.mem_cons_of_mem _ List.mem_cons_self
  rw [commas_rest] at behindComma
  rcases List.mem_cons.1 behindComma with other | inRoutes
  · cases other
  · obtain ⟨found, isRoute, behind⟩ := List.mem_flatMap.1 inRoutes
    have written := literal_operation found (known_routes found isRoute)
    rw [← written] at behind
    simp only [List.mem_cons, List.not_mem_nil, or_false] at behind
    rcases behind with other | isPath | isOperation
    · cases other
    · -- a path starts with a slash, an operation does not
      have same := Token.string_inj isPath
      have slash : ∀ r ∈ instanceRoutes ++ taskRoutes, r.operation.toList.head? ≠ some '/' := by decide
      refine absurd ?_ (slash r known)
      rw [same]
      simp [basePath]
    · have operations : ∀ r ∈ instanceRoutes ++ taskRoutes, ∀ other ∈ instanceRoutes ++ taskRoutes,
          r.operation = other.operation → r = other := by decide
      exact operations r known found (known_routes found isRoute) (Token.string_inj isOperation) ▸ isRoute

/-! ## Agreement -/

/-- a text with the route that lists the tasks of an instance -/
def ListsTasks (content processId : String) : Prop :=
  HasRoute content "Get" ("/" ++ processId ++ "/\x7bid\x7d/tasks") "list_tasks"

/-- a text with the route that completes a task of an instance -/
def CompletesTask (content processId : String) : Prop :=
  HasRoute content "Post" ("/" ++ processId ++ "/\x7bid\x7d/tasks/\x7btask_id\x7d") "complete_task"

theorem mem_routes_iff {m : ProcessModel} {r : Route} (isTask : r ∈ taskRoutes) : r ∈ routes m ↔ m.hasHumanTasks = true := by
  have own : r ∉ instanceRoutes := by
    revert r
    decide
  unfold routes
  cases m.hasHumanTasks with
  | true => simp [isTask]
  | false => simp [own]

theorem userTaskEvent_mem_iff {m : ProcessModel} : userTaskEvent ∈ eventTypes m ↔ m.hasHumanTasks = true := by
  unfold eventTypes
  cases m.hasHumanTasks
  all_goals cases m.hasVariables
  all_goals decide

theorem variableEvent_mem_iff {m : ProcessModel} : variableEvent ∈ eventTypes m ↔ m.hasVariables = true := by
  unfold eventTypes
  cases m.hasHumanTasks
  all_goals cases m.hasVariables
  all_goals decide

/-- **The files of a process agree.** For every process that is translated, the event file declares the user task event
where the resource file has the task routes, both or only one of them, where the process file opens a builder of a human
task, and where one of its nodes is a human task; and it declares the variable event where the process file declares a
variable, and where one of its scopes has any. Nodes and scopes count at every depth, and variables may be declared more
than once. -/
theorem features_agree {input : GenerationInput} {m : ProcessModel} {content : String}
    (found : input.model? m.id = some m)
    (compiled : Translation.compileText m input.kinds input.runtimeCrate = .ok content) :
    ∃ events rest,
      (Generator.process m.id).output input = .ok [⟨.source, processPath m.id, content⟩] ∧
      (Generator.events m.id).output input = .ok [⟨.source, eventsPath m.id, events⟩] ∧
      (Generator.rest m.id).output input = .ok [⟨.source, restPath m.id, rest⟩] ∧
      [DeclaresStruct events (processTypeName m.id ++ "UserTaskEvent"),
        ListsTasks rest m.id ∧ CompletesTask rest m.id, ListsTasks rest m.id ∨ CompletesTask rest m.id,
        Translation.OpensBy content "human_task_node", .humanTask ∈ Translation.nodesKinds m.nodes].TFAE ∧
      [DeclaresStruct events (processTypeName m.id ++ "VariableEvent"), Translation.DeclaresVariable content,
        Translation.modelVariables m ≠ []].TFAE := by
  have name : IsName input.runtime.toList := isName_identifierOf input.runtimeCrate
  refine ⟨eventsSource input.runtime m, restSource input.runtime m, ?_, ?_, ?_, ?_, ?_⟩
  · rw [Generator.output, ofModel_eq found, compiled]
    rfl
  · rw [Generator.output, ofModel_eq found]
    rfl
  · rw [Generator.output, ofModel_eq found]
    rfl
  · -- each file is tied to the search for human tasks
    have task : DeclaresStruct (eventsSource input.runtime m) (processTypeName m.id ++ "UserTaskEvent") ↔
        m.hasHumanTasks = true := (declaresEvent_iff name m (by decide : userTaskEvent ∈ allEvents)).trans userTaskEvent_mem_iff
    have route : ∀ r ∈ taskRoutes, (r.IsIn (restSource input.runtime m) m.id ↔ m.hasHumanTasks = true) := by
      intro r isTask
      exact (hasRoute_iff name m (List.mem_append_right _ isTask)).trans (mem_routes_iff isTask)
    have lists : ListsTasks (restSource input.runtime m) m.id ↔ m.hasHumanTasks = true := route _ List.mem_cons_self
    have completes : CompletesTask (restSource input.runtime m) m.id ↔ m.hasHumanTasks = true :=
      route _ (List.mem_cons_of_mem _ List.mem_cons_self)
    have builder : Translation.OpensBy content "human_task_node" ↔ m.hasHumanTasks = true :=
      Translation.opensBy_iff compiled .humanTask
    have node := Translation.hasHumanTasks_iff m
    tfae_have 1 → 2 := fun declared => ⟨lists.2 (task.1 declared), completes.2 (task.1 declared)⟩
    tfae_have 2 → 3 := fun both => .inl both.1
    tfae_have 3 → 4 := fun one => builder.2 (one.elim lists.1 completes.1)
    tfae_have 4 → 5 := fun opens => node.1 (builder.1 opens)
    tfae_have 5 → 1 := fun isKind => task.2 (node.2 isKind)
    tfae_finish
  · have event : DeclaresStruct (eventsSource input.runtime m) (processTypeName m.id ++ "VariableEvent") ↔
        m.hasVariables = true := (declaresEvent_iff name m (by decide : variableEvent ∈ allEvents)).trans variableEvent_mem_iff
    tfae_have 1 ↔ 2 := event.trans (Translation.declaresVariable_iff compiled).symm
    tfae_have 2 ↔ 3 := (Translation.declaresVariable_iff compiled).trans (Translation.hasVariables_iff m)
    tfae_finish

/-- a process whose only human task is two sub-processes deep and declares its only variable, twice -/
def reviewProcess : ProcessModel where
  id := "review"
  name := none
  packageName := none
  version := none
  nodes := [.subProcess ⟨1, none, NameMap.empty, some []⟩ [
    .subProcess ⟨1, none, NameMap.empty, none⟩ [
      .activity ⟨2, none, NameMap.empty, some [⟨"order", "String", none⟩, ⟨"order", "Long", none⟩]⟩
        (.humanTask "approve" none none)] [] false] [] true]
  connections := []
  vars := []
  metadata := NameMap.empty

def reviewInput : GenerationInput := ⟨[reviewProcess], Translation.Kinds.full, "app", "flow-runtime"⟩

theorem reviewProcess_features : ∃ content events rest,
    reviewInput.model? "review" = some reviewProcess ∧
      Translation.compileText reviewProcess Translation.Kinds.full "flow-runtime" = .ok content ∧
      (Generator.events "review").output reviewInput = .ok [⟨.source, eventsPath "review", events⟩] ∧
      (Generator.rest "review").output reviewInput = .ok [⟨.source, restPath "review", rest⟩] ∧
      DeclaresStruct events "ReviewProcessUserTaskEvent" ∧ ListsTasks rest "review" ∧ CompletesTask rest "review" ∧
      Translation.OpensBy content "human_task_node" ∧ DeclaresStruct events "ReviewProcessVariableEvent" ∧
      Translation.DeclaresVariable content := by
  have found : reviewInput.model? "review" = some reviewProcess := rfl
  have translated : (Translation.compileText reviewProcess Translation.Kinds.full "flow-runtime").toBool = true := by
    decide +kernel
  cases compiled : Translation.compileText reviewProcess Translation.Kinds.full "flow-runtime" with
  | error f =>
    rw [compiled] at translated
    cases translated
  | ok content =>
    obtain ⟨events, rest, -, eventFile, restFile, tasks, vars⟩ :=
      @features_agree reviewInput reviewProcess content found compiled
    have isTask : .humanTask ∈ Translation.nodesKinds reviewProcess.nodes := by decide
    have hasAny : Translation.modelVariables reviewProcess ≠ [] := by decide
    obtain ⟨lists, completes⟩ := (tasks.out 4 1).1 isTask
    exact ⟨content, events, rest, found, rfl, eventFile, restFile, (tasks.out 4 0).1 isTask, lists, completes,
      (tasks.out 4 3).1 isTask, (vars.out 2 0).1 hasAny, (vars.out 2 1).1 hasAny⟩

end ProcessBuild.Generation
