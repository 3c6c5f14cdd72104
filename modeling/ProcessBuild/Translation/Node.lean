/-
Translation of nodes. A node opens its builder on the current target, names it, attaches metadata and variables, makes
the calls of its kind and closes with `done`. A container's connections follow all of its nodes.
-/
import ProcessBuild.Translation.Declaration
import ProcessBuild.Text.Blank

namespace ProcessBuild.Translation

open Builder

/-- the kinds of nodes that can be translated, in declaration order -/
structure Kinds where
  registered : List NodeKind
  deriving DecidableEq, Repr

namespace Kinds

def full : Kinds := ⟨NodeKind.all⟩

def ofList (kinds : List NodeKind) : Kinds := ⟨NodeKind.all.filter kinds.contains⟩

/-- whether nodes of a kind can be translated -/
def has (k : Kinds) (kind : NodeKind) : Bool := k.registered.contains kind

def missing (k : Kinds) : List NodeKind := NodeKind.all.filter fun kind => !k.has kind

end Kinds

/-- fail at a node of the current container -/
def failAt {α : Type} (id : NodeId) (kind : Option NodeKind) (reason : Reason) : Translate α := do
  let c ← get
  throw ⟨c.uniqueId id, kind, reason⟩

/-- a call with one text argument, if there is a text -/
def optionalCall (target method : String) (value : Option String) : List Statement :=
  value.toList.map fun s => .call target method [.text s]

/-- a name that must not be blank -/
def requireText (info : NodeInfo) (kind : NodeKind) (value : String) (reason : Reason) : Translate Unit :=
  if Text.isBlankText value then failAt info.id (some kind) reason else pure ()

/-- the call of a constraint, whose target has to be a sibling -/
def constraintCall (info : NodeInfo) (target : String) (x : Constraint) : Translate Statement := do
  let c ← get
  if c.isSibling x.target then
    return .call target "constraint"
      [.node x.target, .optionalText x.name, .text x.dialect, .text x.expression, .int32 x.priority]
  else failAt info.id (some .split) (.unknownConstraintTarget x.target)

def constraintCalls (info : NodeInfo) (target : String) : List Constraint → Translate (List Statement)
  | [] => pure []
  | x :: rest => do
    let call ← constraintCall info target x
    let calls ← constraintCalls info target rest
    return call :: calls

/-- the calls that an activity makes on its own builder -/
def activityCalls (info : NodeInfo) (builder : String) : Activity → Translate (List Statement)
  | .start trigger => pure (optionalCall builder "trigger" trigger)
  | .finish terminate => pure [.call builder "terminate" [.flag terminate]]
  | .action dialect script => pure [.call builder "action" [.text dialect, .text script]]
  | .workItem workName parameters => do
    requireText info .workItem workName .emptyWorkName
    return .call builder "work_name" [.text workName] :: entryCalls builder "work_parameter" parameters
  | .humanTask taskName actorId groupId => do
    requireText info .humanTask taskName .emptyTaskName
    return .call builder "task_name" [.text taskName] ::
      optionalCall builder "actor_id" actorId ++ optionalCall builder "group_id" groupId
  | .split gateway constraints => do
    let calls ← constraintCalls info builder constraints
    return .call builder "split_type" [.gateway gateway] :: calls
  | .join gateway => pure [.call builder "join_type" [.gateway gateway]]
  | .event eventType variableName => do
    requireText info .event eventType .emptyEventType
    return .call builder "event_type" [.text eventType] :: optionalCall builder "variable_name" variableName
  | .timer delay period => pure (optionalCall builder "delay" delay ++ optionalCall builder "period" period)
  | .boundaryEvent eventType attachedTo cancelActivity => do
    requireText info .boundaryEvent eventType .emptyEventType
    return [.call builder "event_type" [.text eventType], .call builder "attached_to" [.text attachedTo],
      .call builder "cancel_activity" [.flag cancelActivity]]

/-- the call of a connection of the current container, whose ends both have to be siblings -/
def connectionCall (x : Connection) : Translate Statement := do
  let c ← get
  let unknown (id : NodeId) := failAt id none (.unknownConnectionEndpoint x.uniqueId)
  if !c.isSibling x.source then unknown x.source
  else if !c.isSibling x.target then unknown x.target
  else return .call c.target "connection" [.node x.source, .node x.target, .text x.uniqueId]

def connectionCalls : List Connection → Translate (List Statement)
  | [] => pure []
  | x :: rest => do
    let call ← connectionCall x
    let calls ← connectionCalls rest
    return call :: calls

/-- open the builder of a node and attach what it carries whatever its kind: the builder's name and the statements -/
def openNode (kinds : Kinds) (info : NodeInfo) (kind : NodeKind) : Translate (String × List Statement) := do
  if !kinds.has kind then failAt info.id (some kind) .unregistered
  let c ← get
  let builder := c.builderName kind.builderMethod info.id
  let vars ← declareVariables builder (info.vars.getD [])
  return (builder, .bind builder c.target kind.builderMethod info.id ::
    optionalCall builder "name" info.name ++ metadataCalls builder info.metadata ++ vars)

def doneCall (builder : String) : Statement := .call builder "done" []

mutual

def visit (kinds : Kinds) : Node → Translate (List Statement)
  | .activity info a => do
    let (builder, opening) ← openNode kinds info a.kind
    let body ← activityCalls info builder a
    return opening ++ body ++ [doneCall builder]
  | .subProcess info nodes connections autoComplete => do
    let (builder, opening) ← openNode kinds info .subProcess
    let body ← within info.id builder (among (nodes.map Node.id) (do
      let inner ← visitAll kinds nodes
      let edges ← connectionCalls connections
      return inner ++ edges))
    return opening ++ .call builder "auto_complete" [.flag autoComplete] :: body ++ [doneCall builder]

def visitAll (kinds : Kinds) : List Node → Translate (List Statement)
  | [] => pure []
  | n :: rest => do
    let first ← visit kinds n
    let others ← visitAll kinds rest
    return first ++ others

end

/-- the statements of a container: its nodes in order, then its connections -/
def emitNodes (kinds : Kinds) (nodes : List Node) (connections : List Connection) : Translate (List Statement) :=
  among (nodes.map Node.id) (do
    let inner ← visitAll kinds nodes
    let edges ← connectionCalls connections
    return inner ++ edges)

end ProcessBuild.Translation
