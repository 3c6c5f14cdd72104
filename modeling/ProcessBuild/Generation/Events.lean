/-
The data events of a process. Every event type wraps one of the runtime's event envelopes and dereferences to it. A
process has an instance event; one with human tasks has a user task event, one with variables a variable event.
-/
import ProcessBuild.Generation.Artifact

namespace ProcessBuild.Generation

/-- a kind of event: how its comment starts, the end of its type name and its envelope -/
structure EventType where
  phrase : String
  ending : String
  envelope : String
  deriving DecidableEq, Repr

def instanceEvent : EventType := ⟨"Instance lifecycle event", "InstanceEvent", "ProcessInstanceDataEvent"⟩

/-- the event of processes with human tasks -/
def userTaskEvent : EventType := ⟨"User task event", "UserTaskEvent", "UserTaskInstanceDataEvent"⟩

def variableEvent : EventType := ⟨"Variable change event", "VariableEvent", "VariableInstanceDataEvent"⟩

def eventTypes (m : ProcessModel) : List EventType :=
  instanceEvent :: (if m.hasHumanTasks then [userTaskEvent] else []) ++
    (if m.hasVariables then [variableEvent] else [])

def EventType.declaration (e : EventType) (processId : String) : String :=
  let name := Source.processTypeName processId ++ e.ending
  lines [
    "/// " ++ e.phrase ++ " of `" ++ commentText processId ++ "`.",
    "pub struct " ++ name ++ " \x7b",
    "    inner: " ++ e.envelope ++ ",",
    "\x7d",
    "",
    "impl Deref for " ++ name ++ " \x7b",
    "    type Target = " ++ e.envelope ++ ";",
    "",
    "    fn deref(&self) -> &Self::Target \x7b",
    "        &self.inner",
    "    \x7d",
    "\x7d",
    "",
    "impl DataEvent for " ++ name ++ " \x7b\x7d",
    "",
    "impl ProcessDataEvent for " ++ name ++ " \x7b",
    "    const PROCESS_ID: &'static str = " ++ Text.literal processId ++ ";",
    "\x7d"]

def eventsSource (runtime : String) (m : ProcessModel) : String :=
  let events := eventTypes m
  lines [
    "//! Data events of the `" ++ commentText m.id ++ "` process.",
    "",
    "use std::ops::Deref;",
    "use " ++ runtime ++ "::event::\x7bDataEvent, ProcessDataEvent" ++
      String.join (events.map fun e => ", " ++ e.envelope) ++ "\x7d;"] ++
    String.join (events.map fun e => "\n" ++ e.declaration m.id)

end ProcessBuild.Generation
