/-
Process models: an ordered list of nodes wired together by connections, with variables and metadata. Nodes are either
activities or sub-processes, which hold nodes and connections of their own. The order of nodes is the order in which
their builders are called.
-/
import ProcessBuild.Process.Metadata

namespace ProcessBuild

/-- the number of a node, unique in its container -/
abbrev NodeId := UInt64

/-- a typed variable -/
structure Variable where
  name : String
  typeName : String
  tags : Option String := none
  deriving DecidableEq, Repr

/-- an edge between two nodes of a container -/
structure Connection where
  source : NodeId
  target : NodeId
  id : Option String := none
  deriving DecidableEq, Repr

/-- the id of a connection, or its two ends -/
def Connection.uniqueId (c : Connection) : String :=
  match c.id with
  | some id => id
  | none => toString c.source ++ "-" ++ toString c.target

/-- how a gateway treats its branches -/
inductive Gateway where
  | xor
  | and
  | or
  deriving DecidableEq, Repr, Inhabited

/-- the condition of an outgoing branch -/
structure Constraint where
  target : NodeId
  name : Option String
  dialect : String
  expression : String
  priority : Int32
  deriving DecidableEq, Repr

/-- what a node of any kind carries -/
structure NodeInfo where
  id : NodeId
  name : Option String
  metadata : Metadata
  vars : Option (List Variable)

/-- a node without nodes of its own -/
inductive Activity where
  | start (trigger : Option String)
  | finish (terminate : Bool)
  | action (dialect script : String)
  | workItem (workName : String) (parameters : Metadata)
  | humanTask (taskName : String) (actorId groupId : Option String)
  | split (gateway : Gateway) (constraints : List Constraint)
  | join (gateway : Gateway)
  | event (eventType : String) (variableName : Option String)
  | timer (delay period : Option String)
  | boundaryEvent (eventType attachedTo : String) (cancelActivity : Bool)

inductive Node where
  | activity (info : NodeInfo) (activity : Activity)
  | subProcess (info : NodeInfo) (nodes : List Node) (connections : List Connection) (autoComplete : Bool)

structure ProcessModel where
  id : String
  name : Option String
  packageName : Option String
  version : Option String
  nodes : List Node
  connections : List Connection
  vars : List Variable
  metadata : Metadata

/-! ## Kinds of nodes -/

/-- the kinds of nodes in declaration order -/
inductive NodeKind where
  | start
  | finish
  | action
  | workItem
  | humanTask
  | split
  | join
  | event
  | timer
  | boundaryEvent
  | subProcess
  deriving DecidableEq, Repr

namespace NodeKind

/-- every kind, in declaration order -/
def all : List NodeKind :=
  [start, finish, action, workItem, humanTask, split, join, event, timer, boundaryEvent, subProcess]

/-- the name of a kind in models and messages -/
def name : NodeKind → String
  | start => "start"
  | finish => "end"
  | action => "action"
  | workItem => "workItem"
  | humanTask => "humanTask"
  | split => "split"
  | join => "join"
  | event => "event"
  | timer => "timer"
  | boundaryEvent => "boundaryEvent"
  | subProcess => "subProcess"

def ofName? (s : String) : Option NodeKind := all.find? (·.name = s)

def builderMethod : NodeKind → String
  | start => "start_node"
  | finish => "end_node"
  | action => "action_node"
  | workItem => "work_item_node"
  | humanTask => "human_task_node"
  | split => "split_node"
  | join => "join_node"
  | event => "event_node"
  | timer => "timer_node"
  | boundaryEvent => "boundary_event_node"
  | subProcess => "sub_process_node"

end NodeKind

def Activity.kind : Activity → NodeKind
  | start _ => .start
  | finish _ => .finish
  | action .. => .action
  | workItem .. => .workItem
  | humanTask .. => .humanTask
  | split .. => .split
  | join _ => .join
  | event .. => .event
  | timer .. => .timer
  | boundaryEvent .. => .boundaryEvent

namespace Node

/-- what a node carries whatever its kind -/
def info : Node → NodeInfo
  | activity info _ => info
  | subProcess info .. => info

def kind : Node → NodeKind
  | activity _ a => a.kind
  | subProcess .. => .subProcess

def id (n : Node) : NodeId := n.info.id

end Node

/-! ## Searching nodes at every depth -/

mutual

/-- whether a node or a node inside it satisfies a test -/
def Node.any (p : Node → Bool) : Node → Bool
  | .activity info a => p (.activity info a)
  | .subProcess info nodes connections auto => p (.subProcess info nodes connections auto) || anyNode p nodes

/-- whether a node of a list, at any depth, satisfies a test -/
def anyNode (p : Node → Bool) : List Node → Bool
  | [] => false
  | n :: rest => n.any p || anyNode p rest

end

def Node.isHumanTask (n : Node) : Bool := n.kind == .humanTask

/-- whether a node declares a variable of its own -/
def Node.declaresVariables (n : Node) : Bool :=
  match n.info.vars with
  | some (_ :: _) => true
  | _ => false

/-- whether a process has a human task at any depth -/
def ProcessModel.hasHumanTasks (m : ProcessModel) : Bool := anyNode Node.isHumanTask m.nodes

/-- whether a process declares a variable at any depth -/
def ProcessModel.hasVariables (m : ProcessModel) : Bool :=
  !m.vars.isEmpty || anyNode Node.declaresVariables m.nodes

end ProcessBuild
