/-
The schema of process models. It says of every object which members it has, which of them are required, and what each
means; members that may be left out name the value that stands for them, unless it is an empty list or nothing.
-/
import ProcessBuild.Json.Schema
import ProcessBuild.Process.Basic

namespace ProcessBuild

namespace ModelSchema

/-- a member of an object -/
structure Field where
  name : String
  required : Bool
  schema : Schema

def described (text : String) (keywords : List Keyword) : Schema := .mk (.description text :: keywords)

def needed (name text : String) (keywords : List Keyword) : Field := ⟨name, true, described text keywords⟩

/-- a member that may be left out -/
def allowed (name text : String) (keywords : List Keyword) : Field := ⟨name, false, described text keywords⟩

def objectOf (fields : List Field) : List Keyword := [
  .types [.object],
  .properties (fields.map fun f => (f.name, f.schema)),
  .required (((fields.filter (·.required)).map (·.name)).mergeSort fun a b => a ≤ b)]

def text : List Keyword := [.types [.string]]

def maybeText : List Keyword := [.types [.string, .null]]

/-- an integer of 64 bits without sign -/
def word : List Keyword :=
  [.types [.integer], .format "uint64", .minimum (.float (Number.Binary64.zero false))]

def switch (default : Bool) : List Keyword := [.types [.boolean], .default (.bool default)]

def reference (name : String) : Schema := .mk [.definition name]

/-- a list of what a definition admits -/
def listOf (name : String) : List Keyword := [.types [.array], .items (reference name)]

/-- a list of what a definition admits, empty by default -/
def listOrEmpty (name : String) : List Keyword := .default (.array []) :: listOf name

def mapOf (name : String) : List Keyword := [.types [.object], .otherProperties (reference name)]

def textOr (default : String) : List Keyword := .default (.string default) :: text

def keyWord (w : String) : List Keyword := [.types [.string], .oneText [w]]

def variableSchema : Schema := described "A typed variable declaration." (objectOf [
  needed "name" "Variable name, unique within the scope" text,
  allowed "tags" "Comma-separated variable tags (e.g. `input,required`)" maybeText,
  needed "type" "Declared type descriptor (e.g. `String`, `org.acme.Order`)" text])

def connectionSchema : Schema := described "A control-flow edge between two nodes." (objectOf [
  needed "from" "Source node" word,
  needed "to" "Target node" word,
  allowed "id" "Connection identifier (defaults to `\x7bfrom\x7d-\x7bto\x7d`)" maybeText])

def constraintSchema : Schema := described "Condition guarding an outgoing branch of a split." (objectOf [
  needed "toNode" "Target node of the guarded branch" word,
  allowed "name" "Constraint name" maybeText,
  allowed "dialect" "Expression dialect" (textOr "rhai"),
  needed "expression" "Guard expression" text,
  allowed "priority" "Evaluation priority (lower first)"
    [.types [.integer], .format "int32", .default (Json.ofInt 0)]])

def gatewaySchema : Schema := described "Gateway semantics." [.oneOf [
  described "Exclusive" (keyWord "XOR"), described "Parallel" (keyWord "AND"), described "Inclusive" (keyWord "OR")]]

def metadataValueSchema : Schema :=
  described ("A metadata value as produced by the front-end parser.\n\nOnly the first four variants are translated " ++
    "into builder calls. Everything else lands in [`MetadataValue::Other`] and is dropped during emission.")
  [.anyOf [
    described "Boolean flag" [.types [.boolean]],
    described "Integer that fits in 32 bits" [.types [.integer], .format "int32"],
    described "Integer that needs 64 bits" [.types [.integer], .format "int64"],
    described "Text" [.types [.string]],
    described "Floats, arrays, objects, null" []]]

def gatewayField : Field :=
  allowed "gateway" "Gateway semantics" [.default (.string "XOR"), .allOf [reference "GatewayType"]]

def kindMeaning : NodeKind → String
  | .start => "Process entry point"
  | .finish => "Process exit point"
  | .action => "Inline script action"
  | .workItem => "Service task delegated to a work item handler"
  | .humanTask => "Task assigned to a human actor or group"
  | .split => "Diverging gateway"
  | .join => "Converging gateway"
  | .event => "Intermediate catch event"
  | .timer => "Intermediate timer"
  | .boundaryEvent => "Event attached to the boundary of another node"
  | .subProcess => "Embedded sub-process with its own nodes and connections"

/-- the members of a kind of node, apart from its name -/
def kindFields : NodeKind → List Field
  | .start => [allowed "trigger" "Message or signal that triggers the process" maybeText]
  | .finish => [allowed "terminate" "Terminate the whole process instead of the current path" (switch false)]
  | .action => [
    allowed "dialect" "Script dialect (e.g. `rhai`, `jq`)" (textOr "rhai"),
    needed "script" "Script body" text]
  | .workItem => [
    needed "workName" "Name of the work item handler" text,
    allowed "parameters" "Static handler parameters" (mapOf "MetadataValue")]
  | .humanTask => [
    needed "taskName" "Task name shown to the assignee" text,
    allowed "actorId" "Assigned actor" maybeText,
    allowed "groupId" "Assigned group" maybeText]
  | .split => [gatewayField, allowed "constraints" "Outgoing constraints" (listOf "Constraint")]
  | .join => [gatewayField]
  | .event => [
    needed "eventType" "Event type to wait for" text,
    allowed "variableName" "Variable receiving the event payload" maybeText]
  | .timer => [
    allowed "delay" "Initial delay (ISO-8601 duration)" maybeText,
    allowed "period" "Repeat period (ISO-8601 duration)" maybeText]
  | .boundaryEvent => [
    needed "eventType" "Event type to wait for" text,
    needed "attachedTo" "Unique id of the node this event is attached to" text,
    allowed "cancelActivity" "Whether triggering the event cancels the attached activity" (switch true)]
  | .subProcess => [
    allowed "nodes" "Nested nodes in declaration order" (listOrEmpty "Node"),
    allowed "connections" "Nested control flow" (listOf "Connection"),
    allowed "autoComplete" "Complete automatically once no nested node is active" (switch false)]

def kindSchema (k : NodeKind) : Schema :=
  described (kindMeaning k) (objectOf (⟨"type", true, .mk (keyWord k.name)⟩ :: kindFields k))

def nodeSchema : Schema := described "A process node: common fields plus the kind-specific payload."
  (.oneOf (NodeKind.all.map kindSchema) :: objectOf [
    needed "id" "Node identifier" word,
    allowed "name" "Human-readable node name" maybeText,
    allowed "metadata" "Node-owned metadata" (mapOf "MetadataValue"),
    allowed "variables" "Node-owned variable scope" [.types [.array, .null], .items (reference "Variable")]])

def processSchema : Schema := described "Complete process definition." (objectOf [
  needed "id" "Process identifier, used for the generated type and file names" text,
  allowed "name" "Human-readable process name" maybeText,
  allowed "packageName" "Logical package the process belongs to" maybeText,
  allowed "version" "Process version" maybeText,
  allowed "nodes" "Nodes in declaration order" (listOrEmpty "Node"),
  allowed "connections" "Control flow between nodes" (listOf "Connection"),
  allowed "variables" "Process-level variables" (listOrEmpty "Variable"),
  allowed "metadata" "Free-form process metadata" (mapOf "MetadataValue")])

end ModelSchema

def ProcessModel.schema : SchemaDocument :=
  { title := "ProcessModel"
    root := ModelSchema.processSchema
    definitions := [
      ("Connection", ModelSchema.connectionSchema), ("Constraint", ModelSchema.constraintSchema),
      ("GatewayType", ModelSchema.gatewaySchema), ("MetadataValue", ModelSchema.metadataValueSchema),
      ("Node", ModelSchema.nodeSchema), ("Variable", ModelSchema.variableSchema)] }

end ProcessBuild
