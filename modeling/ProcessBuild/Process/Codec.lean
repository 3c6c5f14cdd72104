/-
Process models as JSON. A node is an object that holds the members of its kind beside its own; the member `type` names
the kind, or counts it from zero. Absent optional members and empty connections, constraints, metadata and parameters
are not written.
-/
import ProcessBuild.Process.Basic
import ProcessBuild.Text.Blank

namespace ProcessBuild

open Decode

/-- the dialect of scripts and expressions that name none -/
def defaultDialect : String := "rhai"

/-! ## Reading -/

namespace Variable

def ofJson (origin : Origin) : Json → Decoded Variable
  | .object ms => do
    let name ← member ms "name" string
    let tags ← member ms "tags" (optional string)
    let typeName ← member ms "type" string
    return { name := ← required "name" name, typeName := ← required "type" typeName, tags := tags.getD none }
  | .array xs => do
    let what := structureOf "Variable" 3
    let name ← element what xs 0 string
    let typeName ← element what xs 1 string
    let tags ← elementOr none xs 2 (optional string)
    noMoreThan origin 3 xs
    return { name, typeName, tags }
  | v => wrongType v "struct Variable"

def toJson (v : Variable) : Json :=
  .object ([("name", .string v.name), ("type", .string v.typeName)] ++
    v.tags.toList.map fun t => ("tags", .string t))

end Variable

namespace Connection

def ofJson (origin : Origin) : Json → Decoded Connection
  | .object ms => do
    let source ← member ms "from" word64
    let id ← member ms "id" (optional string)
    let target ← member ms "to" word64
    return { source := ← required "from" source, target := ← required "to" target, id := id.getD none }
  | .array xs => do
    let what := structureOf "Connection" 3
    let source ← element what xs 0 word64
    let target ← element what xs 1 word64
    let id ← elementOr none xs 2 (optional string)
    noMoreThan origin 3 xs
    return { source, target, id }
  | v => wrongType v "struct Connection"

def toJson (c : Connection) : Json :=
  .object ([("from", .ofNat c.source.toNat), ("to", .ofNat c.target.toNat)] ++
    c.id.toList.map fun t => ("id", .string t))

end Connection

namespace Gateway

def names : List (String × Gateway) := [("XOR", xor), ("AND", and), ("OR", or)]

def name : Gateway → String
  | xor => "XOR"
  | and => "AND"
  | or => "OR"

def ofJson : Json → Decoded Gateway := choice .buffered names

end Gateway

namespace Constraint

/-- a constraint, which always reaches the decoder with the node that owns it -/
def ofJson : Json → Decoded Constraint
  | .object ms => do
    let dialect ← member ms "dialect" string
    let expression ← member ms "expression" string
    let name ← member ms "name" (optional string)
    let priority ← member ms "priority" int32
    let target ← member ms "toNode" word64
    let target ← required "toNode" target
    let expression ← required "expression" expression
    return {
      target, name := name.getD none, dialect := dialect.getD defaultDialect, expression
      priority := priority.getD 0 }
  | .array xs => do
    let what := structureOf "Constraint" 5
    let target ← element what xs 0 word64
    let name ← elementOr none xs 1 (optional string)
    let dialect ← elementOr defaultDialect xs 2 string
    let expression ← element what xs 3 string
    let priority ← elementOr 0 xs 4 int32
    noMoreThan .buffered 5 xs
    return { target, name, dialect, expression, priority }
  | v => wrongType v "struct Constraint"

def toJson (c : Constraint) : Json :=
  .object (("toNode", .ofNat c.target.toNat) :: (c.name.toList.map fun n => ("name", Json.string n)) ++
    [("dialect", .string c.dialect), ("expression", .string c.expression), ("priority", .ofInt c.priority.toInt)])

end Constraint

/-- the kind named by the member `type` -/
def NodeKind.ofJson : Json → Decoded NodeKind
  | .string s => variant (NodeKind.all.map fun k => (k.name, k)) s
  | .number (.int i) =>
    if i < 0 then wrongType (.ofInt i) "variant identifier"
    else
      match NodeKind.all[i.toNat]? with
      | some k => .ok k
      | none => .error (.invalidValue (.int i) "variant index 0 <= i < 11")
  | v => wrongType v "variant identifier"

def variablesOfJson (origin : Origin) : Json → Decoded (List Variable) := list (Variable.ofJson origin)

/-- the members of a node that do not depend on its kind -/
def NodeInfo.ofMembers (origin : Origin) (ms : List (String × Json)) : Decoded NodeInfo := do
  let id ← member ms "id" word64
  let metadata ← member ms "metadata" Metadata.ofJson
  let name ← member ms "name" (optional string)
  let vars ← member ms "variables" (optional (variablesOfJson origin))
  return {
    id := ← required "id" id, name := name.getD none, metadata := metadata.getD NameMap.empty
    vars := vars.getD none }

/-- the members of an activity of a kind; none for the kind that is not an activity -/
def Activity.ofMembers? (ms : List (String × Json)) : NodeKind → Option (Decoded Activity)
  | .start => some do
    let trigger ← member ms "trigger" (optional string)
    return .start (trigger.getD none)
  | .finish => some do
    let terminate ← member ms "terminate" bool
    return .finish (terminate.getD false)
  | .action => some do
    let dialect ← member ms "dialect" string
    let script ← member ms "script" string
    return .action (dialect.getD defaultDialect) (← required "script" script)
  | .workItem => some do
    let parameters ← member ms "parameters" Metadata.ofJson
    let workName ← member ms "workName" string
    return .workItem (← required "workName" workName) (parameters.getD NameMap.empty)
  | .humanTask => some do
    let actorId ← member ms "actorId" (optional string)
    let groupId ← member ms "groupId" (optional string)
    let taskName ← member ms "taskName" string
    return .humanTask (← required "taskName" taskName) (actorId.getD none) (groupId.getD none)
  | .split => some do
    let constraints ← member ms "constraints" (list Constraint.ofJson)
    let gateway ← member ms "gateway" Gateway.ofJson
    return .split (gateway.getD .xor) (constraints.getD [])
  | .join => some do
    let gateway ← member ms "gateway" Gateway.ofJson
    return .join (gateway.getD .xor)
  | .event => some do
    let eventType ← member ms "eventType" string
    let variableName ← member ms "variableName" (optional string)
    return .event (← required "eventType" eventType) (variableName.getD none)
  | .timer => some do
    let delay ← member ms "delay" (optional string)
    let period ← member ms "period" (optional string)
    return .timer (delay.getD none) (period.getD none)
  | .boundaryEvent => some do
    let attachedTo ← member ms "attachedTo" string
    let cancelActivity ← member ms "cancelActivity" bool
    let eventType ← member ms "eventType" string
    let eventType ← required "eventType" eventType
    return .boundaryEvent eventType (← required "attachedTo" attachedTo) (cancelActivity.getD true)
  | .subProcess => none

/-- a node from its members; `nested` is what its member `nodes` decodes to, if there is one -/
def Node.assemble (origin : Origin) (ms : List (String × Json)) (nested : Option (Decoded (List Node))) :
    Decoded Node := do
  let info ← NodeInfo.ofMembers origin ms
  let kind ← required "type" (← member ms "type" NodeKind.ofJson)
  match Activity.ofMembers? ms kind with
  | some decoded => return .activity info (← decoded)
  | none =>
    let autoComplete ← member ms "autoComplete" bool
    let connections ← member ms "connections" (list (Connection.ofJson .buffered))
    let nodes ← nested.getD (.ok [])
    return .subProcess info nodes (connections.getD []) (autoComplete.getD false)

mutual

def Node.ofJson (origin : Origin) : Json → Decoded Node
  | .object ms => Node.assemble origin ms (nestedIn ms)
  | .null => wrongType .null "struct Node"
  | .bool b => wrongType (.bool b) "struct Node"
  | .number n => wrongType (.number n) "struct Node"
  | .string s => wrongType (.string s) "struct Node"
  | .array xs => wrongType (.array xs) "struct Node"

/-- what the member `nodes` decodes to, if there is one -/
def nestedIn : List (String × Json) → Option (Decoded (List Node))
  | [] => none
  | m :: rest =>
    match nestedMember m with
    | some nodes => some nodes
    | none => nestedIn rest

/-- what a member decodes to, if it is the member `nodes` -/
def nestedMember : String × Json → Option (Decoded (List Node))
  | (k, v) => if k = "nodes" then some (nodesOfJson .buffered v) else none

def nodesOfJson (origin : Origin) : Json → Decoded (List Node)
  | .array items => nodeItems origin items
  | .null => wrongType .null "a sequence"
  | .bool b => wrongType (.bool b) "a sequence"
  | .number n => wrongType (.number n) "a sequence"
  | .string s => wrongType (.string s) "a sequence"
  | .object ms => wrongType (.object ms) "a sequence"

def nodeItems (origin : Origin) : List Json → Decoded (List Node)
  | [] => .ok []
  | v :: rest => do
    let n ← Node.ofJson origin v
    let ns ← nodeItems origin rest
    return n :: ns

end

/-- a process model before its id is checked -/
def ProcessModel.ofJson : Json → Decoded ProcessModel
  | .object ms => do
    let connections ← member ms "connections" (list (Connection.ofJson .document))
    let id ← member ms "id" string
    let metadata ← member ms "metadata" Metadata.ofJson
    let name ← member ms "name" (optional string)
    let nodes ← member ms "nodes" (nodesOfJson .document)
    let packageName ← member ms "packageName" (optional string)
    let vars ← member ms "variables" (variablesOfJson .document)
    let version ← member ms "version" (optional string)
    return {
      id := ← required "id" id, name := name.getD none, packageName := packageName.getD none
      version := version.getD none, nodes := nodes.getD [], connections := connections.getD []
      vars := vars.getD [], metadata := metadata.getD NameMap.empty }
  | .array xs => do
    let id ← element (structureOf "ProcessModel" 8) xs 0 string
    let name ← elementOr none xs 1 (optional string)
    let packageName ← elementOr none xs 2 (optional string)
    let version ← elementOr none xs 3 (optional string)
    let nodes ← elementOr [] xs 4 (nodesOfJson .document)
    let connections ← elementOr [] xs 5 (list (Connection.ofJson .document))
    let vars ← elementOr [] xs 6 (variablesOfJson .document)
    let metadata ← elementOr NameMap.empty xs 7 Metadata.ofJson
    noMoreThan .document 8 xs
    return { id, name, packageName, version, nodes, connections, vars, metadata }
  | v => wrongType v "struct ProcessModel"

inductive ModelFault where
  | undecodable (fault : DecodeFault)
  | blankId
  deriving DecidableEq, Repr

def ModelFault.message : ModelFault → String
  | .undecodable fault => "Failed to parse process model: " ++ fault.message
  | .blankId => "Failed to parse process model: process id must not be empty"

/-- read a process model; its id has to hold a character that is not blank -/
def ProcessModel.parse (v : Json) : Except ModelFault ProcessModel :=
  match ProcessModel.ofJson v with
  | .error fault => .error (.undecodable fault)
  | .ok m => if Text.isBlankText m.id then .error .blankId else .ok m

/-! ## Writing -/

def optionalMember (key : String) (value : Option String) : List (String × Json) :=
  value.toList.map fun s => (key, .string s)

/-- a member that is left out when its list is empty -/
def listMember {α : Type} (key : String) (f : α → Json) (items : List α) : List (String × Json) :=
  if items.isEmpty then [] else [(key, .array (items.map f))]

/-- a member that is left out when its metadata is empty -/
def metadataMember (key : String) (m : Metadata) : List (String × Json) :=
  if m.isEmpty then [] else [(key, m.toJson)]

/-- the members of a node that do not depend on its kind -/
def NodeInfo.members (n : NodeInfo) : List (String × Json) :=
  ("id", .ofNat n.id.toNat) :: optionalMember "name" n.name ++ metadataMember "metadata" n.metadata ++
    n.vars.toList.map fun vs => ("variables", .array (vs.map Variable.toJson))

def Activity.members : Activity → List (String × Json)
  | start trigger => optionalMember "trigger" trigger
  | finish terminate => [("terminate", .bool terminate)]
  | action dialect script => [("dialect", .string dialect), ("script", .string script)]
  | workItem workName parameters => ("workName", .string workName) :: metadataMember "parameters" parameters
  | humanTask taskName actorId groupId =>
    ("taskName", .string taskName) :: optionalMember "actorId" actorId ++ optionalMember "groupId" groupId
  | split gateway constraints =>
    ("gateway", .string gateway.name) :: listMember "constraints" Constraint.toJson constraints
  | join gateway => [("gateway", .string gateway.name)]
  | event eventType variableName => ("eventType", .string eventType) :: optionalMember "variableName" variableName
  | timer delay period => optionalMember "delay" delay ++ optionalMember "period" period
  | boundaryEvent eventType attachedTo cancelActivity =>
    [("eventType", .string eventType), ("attachedTo", .string attachedTo), ("cancelActivity", .bool cancelActivity)]

mutual

def Node.toJson : Node → Json
  | .activity info a => .object (info.members ++ ("type", .string a.kind.name) :: a.members)
  | .subProcess info nodes connections autoComplete =>
    .object (info.members ++ ("type", .string NodeKind.subProcess.name) :: ("nodes", .array (nodesToJson nodes)) ::
      listMember "connections" Connection.toJson connections ++ [("autoComplete", .bool autoComplete)])

def nodesToJson : List Node → List Json
  | [] => []
  | n :: rest => n.toJson :: nodesToJson rest

end

def ProcessModel.toJson (m : ProcessModel) : Json :=
  .object (("id", .string m.id) :: optionalMember "name" m.name ++ optionalMember "packageName" m.packageName ++
    optionalMember "version" m.version ++ ("nodes", .array (nodesToJson m.nodes)) ::
    listMember "connections" Connection.toJson m.connections ++
    ("variables", .array (m.vars.map Variable.toJson)) :: metadataMember "metadata" m.metadata)

end ProcessBuild
