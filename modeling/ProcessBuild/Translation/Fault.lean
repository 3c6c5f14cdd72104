/-
Faults of translation: the first node of a process that cannot be turned into builder calls, and why.
-/
import ProcessBuild.Process.Basic

namespace ProcessBuild.Translation

/-- why a node cannot be translated -/
inductive Reason where
  | unregistered
  | emptyWorkName
  | emptyTaskName
  | emptyEventType
  | unknownConstraintTarget (target : NodeId)
  | unknownConnectionEndpoint (connection : String)
  deriving DecidableEq, Repr

def Reason.message : Reason → String
  | unregistered => "no visitor registered for this node kind"
  | emptyWorkName => "work item has an empty work name"
  | emptyTaskName => "human task has an empty task name"
  | emptyEventType => "event has an empty event type"
  | unknownConstraintTarget target => "constraint targets unknown node " ++ toString target
  | unknownConnectionEndpoint connection =>
    "connection '" ++ connection ++ "' references a node that does not exist"

/-- a node that cannot be translated; it has no kind when it does not exist in its container -/
structure Fault where
  nodeId : String
  kind : Option NodeKind
  reason : Reason
  deriving DecidableEq, Repr

def Fault.message (f : Fault) : String :=
  let kind :=
    match f.kind with
    | some k => k.name
    | none => "unknown"
  "Cannot translate node '" ++ f.nodeId ++ "' (kind: " ++ kind ++ "): " ++ f.reason.message

end ProcessBuild.Translation
