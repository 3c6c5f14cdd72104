/-
Reading a process back from what is recorded on its factory. What is recorded on a builder has to come in the order of
a protocol: each method has its turn, and the calls of a method stand together. Anything else is refused, and so are
arguments of the wrong kind, metadata out of order and variables that resolve their types elsewhere.

The events on a builder are put together from sections, one for each turn of the protocol.
- `inOrder_assemble`: sections put together come in the order of their methods.
- `turn_assemble`: and each is found again at its turn.
-/
import Mathlib.Data.List.Basic
import ProcessBuild.Proofs.Builder.Recording

namespace ProcessBuild.Builder

/-- what a builder is seen to hold: calls, and nodes read back from the builders opened on it -/
inductive Event where
  | call (method : String) (arguments : List Argument)
  | node (n : Node)

/-- the method that an event calls; a node is none -/
def Event.method : Event → Option String
  | .call method _ => some method
  | .node _ => none

/-! ## Turns -/

def turn (events : List Event) (method : Option String) : List Event := events.filter fun e => e.method = method

/-- whether the events come turn by turn, and none has no turn -/
def inOrder (protocol : List (Option String)) (events : List Event) : Bool :=
  (protocol.flatMap (turn events)).map Event.method = events.map Event.method

/-- the calls that every node's builder starts with -/
def openingProtocol : List (Option String) := [some "name", some "metadata", some "variable"]

/-- the turns of the calls that only a kind of node makes -/
def ownProtocol : NodeKind → List (Option String)
  | .start => [some "trigger"]
  | .finish => [some "terminate"]
  | .action => [some "action"]
  | .workItem => [some "work_name", some "work_parameter"]
  | .humanTask => [some "task_name", some "actor_id", some "group_id"]
  | .split => [some "split_type", some "constraint"]
  | .join => [some "join_type"]
  | .event => [some "event_type", some "variable_name"]
  | .timer => [some "delay", some "period"]
  | .boundaryEvent => [some "event_type", some "attached_to", some "cancel_activity"]
  | .subProcess => [some "auto_complete", none, some "connection"]

/-- the turns on the builder of a node -/
def nodeProtocol (kind : NodeKind) : List (Option String) := openingProtocol ++ ownProtocol kind ++ [some "done"]

/-- the turns on the factory -/
def processProtocol : List (Option String) :=
  [some "name", some "package_name", some "version", some "metadata", some "variable", none, some "connection",
    some "validate"]

/-! ## Reading a turn -/

/-- a text, if the method was called at all -/
def readOptional : List Event → Option (Option String)
  | [] => some none
  | [.call _ [.text s]] => some (some s)
  | _ => none

def readText : List Event → Option String
  | [.call _ [.text s]] => some s
  | _ => none

/-- the two texts of a call -/
def readTexts : List Event → Option (String × String)
  | [.call _ [.text s, .text t]] => some (s, t)
  | _ => none

/-- the truth value of a call -/
def readFlag : List Event → Option Bool
  | [.call _ [.flag b]] => some b
  | _ => none

/-- the gateway type of a call -/
def readGateway : List Event → Option Gateway
  | [.call _ [.gateway g]] => some g
  | _ => none

/-- one call without arguments -/
def readPlain : List Event → Option Unit
  | [.call _ []] => some ()
  | _ => none

def readValue : Argument → Option MetadataValue
  | .flag b => some (.boolean b)
  | .int32 i => some (.integer i)
  | .int64 i => some (.long i)
  | .text s => some (.text s)
  | _ => none

def readEntry : Event → Option (String × MetadataValue)
  | .call _ [.text key, value] => (readValue value).map fun v => (key, v)
  | _ => none

/-- the metadata of the calls of a turn -/
def readMetadata (events : List Event) : Option Metadata :=
  (events.mapM readEntry).bind fun entries =>
    if h : entries.Pairwise fun a b => a.1 < b.1 then some ⟨entries, h⟩ else none

/-- the variable of a call; the class loader is that of the scope -/
def readVariable (scope : List String) : Event → Option Variable
  | .call _ [.text name, .dataType typeName loader, .text key, .optionalText tags] =>
    if loader = scope ∧ key = "customTags" then some ⟨name, typeName, tags⟩ else none
  | _ => none

/-- the branch of a call -/
def readConstraint : Event → Option Constraint
  | .call _ [.node target, .optionalText name, .text dialect, .text expression, .int32 priority] =>
    some ⟨target, name, dialect, expression, priority⟩
  | _ => none

def readConnection : Event → Option Connection
  | .call _ [.node source, .node target, .text id] => some ⟨source, target, some id⟩
  | _ => none

/-- the nodes among the events of a turn -/
def readNodes (events : List Event) : List Node :=
  events.filterMap fun
    | .node n => some n
    | .call _ _ => none

/-! ## Reading a builder -/

/-- the activity of a kind, from its turns -/
def readActivity (own : String → List Event) : NodeKind → Option Activity
  | .start => return .start (← readOptional (own "trigger"))
  | .finish => return .finish (← readFlag (own "terminate"))
  | .action => do
    let (dialect, script) ← readTexts (own "action")
    return .action dialect script
  | .workItem => return .workItem (← readText (own "work_name")) (← readMetadata (own "work_parameter"))
  | .humanTask =>
    return .humanTask (← readText (own "task_name")) (← readOptional (own "actor_id")) (← readOptional (own "group_id"))
  | .split => return .split (← readGateway (own "split_type")) (← (own "constraint").mapM readConstraint)
  | .join => return .join (← readGateway (own "join_type"))
  | .event => return .event (← readText (own "event_type")) (← readOptional (own "variable_name"))
  | .timer => return .timer (← readOptional (own "delay")) (← readOptional (own "period"))
  | .boundaryEvent =>
    return .boundaryEvent (← readText (own "event_type")) (← readText (own "attached_to"))
      (← readFlag (own "cancel_activity"))
  | .subProcess => none

/-- the kind of the nodes whose builders a method opens -/
def openedKind? : String → Option NodeKind
  | "start_node" => some .start
  | "end_node" => some .finish
  | "action_node" => some .action
  | "work_item_node" => some .workItem
  | "human_task_node" => some .humanTask
  | "split_node" => some .split
  | "join_node" => some .join
  | "event_node" => some .event
  | "timer_node" => some .timer
  | "boundary_event_node" => some .boundaryEvent
  | "sub_process_node" => some .subProcess
  | _ => none

/-- the node whose builder a method opened, from the events on it -/
def readNode (scope : List String) (method : String) (id : NodeId) (events : List Event) : Option Node := do
  let kind ← openedKind? method
  guard (inOrder (nodeProtocol kind) events)
  let own := fun method => turn events (some method)
  let name ← readOptional (own "name")
  let metadata ← readMetadata (own "metadata")
  let vars ← (own "variable").mapM (readVariable scope)
  readPlain (own "done")
  let info : NodeInfo := ⟨id, name, metadata, if vars.isEmpty then none else some vars⟩
  if kind = .subProcess then
    let autoComplete ← readFlag (own "auto_complete")
    let connections ← (own "connection").mapM readConnection
    return .subProcess info (readNodes (turn events none)) connections autoComplete
  else return .activity info (← readActivity own kind)

mutual

def Entry.read (scope : List String) : Entry → Option Event
  | .call method arguments => some (.call method arguments)
  | .builder method id entries => ((readAll scope entries).bind (readNode scope method id)).map .node

def readAll (scope : List String) : List Entry → Option (List Event)
  | [] => some []
  | e :: rest => (e.read scope).bind fun first => (readAll scope rest).map (first :: ·)

end

/-- the process of what is recorded on its factory -/
def readProcess (id : String) (scope : List String) (entries : List Entry) : Option ProcessModel := do
  let events ← readAll scope entries
  guard (inOrder processProtocol events)
  let own := fun method => turn events (some method)
  let name ← readOptional (own "name")
  let packageName ← readOptional (own "package_name")
  let version ← readOptional (own "version")
  let metadata ← readMetadata (own "metadata")
  let vars ← (own "variable").mapM (readVariable scope)
  let connections ← (own "connection").mapM readConnection
  readPlain (own "validate")
  return { id, name, packageName, version, nodes := readNodes (turn events none), connections, vars, metadata }

/-! ## Sections -/

/-- the events of each turn -/
abbrev Sections := List (Option String × List Event)

namespace Sections

/-- the events of all turns, one turn after the other -/
def assemble (sections : Sections) : List Event := sections.flatMap Prod.snd

/-- sections with the methods of their turns, each method once -/
structure Proper (sections : Sections) : Prop where
  tagged : ∀ s ∈ sections, ∀ e ∈ s.2, e.method = s.1
  distinct : (sections.map Prod.fst).Nodup

theorem turn_append (xs ys : List Event) (method : Option String) :
    turn (xs ++ ys) method = turn xs method ++ turn ys method := List.filter_append ..

theorem turn_of_tagged {events : List Event} {method : Option String} (h : ∀ e ∈ events, e.method = method) :
    turn events method = events :=
  List.filter_eq_self.2 fun e he => decide_eq_true (h e he)

theorem turn_of_not_tagged {events : List Event} {method : Option String} (h : ∀ e ∈ events, e.method ≠ method) :
    turn events method = [] :=
  List.filter_eq_nil_iff.2 fun e he => by simpa using h e he

theorem turn_eq_nil {sections : Sections} (tagged : ∀ s ∈ sections, ∀ e ∈ s.2, e.method = s.1) {method : Option String}
    (missing : method ∉ sections.map Prod.fst) : turn sections.assemble method = [] := by
  refine turn_of_not_tagged fun e he same => missing ?_
  obtain ⟨s, hs, inSection⟩ := List.mem_flatMap.1 he
  exact List.mem_map.2 ⟨s, hs, (tagged s hs e inSection).symm.trans same⟩

/-- each section is found again at its turn -/
theorem turn_assemble {sections : Sections} (proper : sections.Proper) {s : Option String × List Event}
    (hs : s ∈ sections) : turn sections.assemble s.1 = s.2 := by
  induction sections with
  | nil => cases hs
  | cons first rest ih =>
    obtain ⟨fresh, distinct⟩ := List.nodup_cons.1 proper.distinct
    have tagged : ∀ s ∈ rest, ∀ e ∈ s.2, e.method = s.1 := fun s hs => proper.tagged s (List.mem_cons_of_mem _ hs)
    have split : assemble (first :: rest) = first.2 ++ assemble rest := rfl
    rw [split, turn_append]
    rcases List.mem_cons.1 hs with rfl | later
    · rw [turn_of_tagged (proper.tagged s List.mem_cons_self), turn_eq_nil tagged fresh, List.append_nil]
    · have other : s.1 ≠ first.1 := fun e => fresh (e ▸ List.mem_map_of_mem later)
      have none_here : turn first.2 s.1 = [] :=
        turn_of_not_tagged fun e he same => other (same ▸ proper.tagged first List.mem_cons_self e he)
      rw [none_here, List.nil_append, ih ⟨tagged, distinct⟩ later]

/-- **Sections come in the order of their methods.** -/
theorem inOrder_assemble {sections : Sections} (proper : sections.Proper) {protocol : List (Option String)}
    (turns : protocol = sections.map Prod.fst) : inOrder protocol sections.assemble = true := by
  have all : protocol.flatMap (turn sections.assemble) = sections.assemble := by
    rw [turns, List.flatMap_map]
    exact List.flatMap_congr fun s hs => turn_assemble proper hs
  unfold inOrder
  rw [all]
  exact decide_eq_true rfl

end Sections
end ProcessBuild.Builder
