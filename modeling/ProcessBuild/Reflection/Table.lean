/-
Reflection tables: which types a build keeps for reflection. The core types are always kept, the types of an addon
group when its addon is on, and below every closure root all concrete types of the index.
-/
import ProcessBuild.Environment.Basic

namespace ProcessBuild

/-- a group of types that an addon switches on -/
inductive AddonGroup where
  | monitoring
  | tracing
  | explainability
  deriving DecidableEq, Repr

namespace AddonGroup

def all : List AddonGroup := [monitoring, tracing, explainability]

def name : AddonGroup → String
  | monitoring => "monitoring"
  | tracing => "tracing"
  | explainability => "explainability"

def ofName? (name : String) : Option AddonGroup := all.find? (·.name = name)

def isOn (addons : Addons) : AddonGroup → Bool
  | monitoring => addons.monitoring
  | tracing => addons.tracing
  | explainability => addons.explainability

end AddonGroup

/-- the type lists of an allow-list; a group without a list is absent -/
structure ReflectionTable where
  core : List String := []
  closureRoots : List String := []
  groups : AddonGroup → Option (List String) := fun _ => none

namespace ReflectionTable

def setGroup (groups : AddonGroup → Option (List String)) (g : AddonGroup) (types : List String) :
    AddonGroup → Option (List String) :=
  fun h => if h = g then some types else groups h

/-- the groups whose addons are on and that the table has a list for -/
def enabledGroups (t : ReflectionTable) (addons : Addons) : List AddonGroup :=
  AddonGroup.all.filter fun g => g.isOn addons && (t.groups g).isSome

def enabledTypes (t : ReflectionTable) (addons : Addons) : List String :=
  (t.enabledGroups addons).flatMap fun g => (t.groups g).getD []

/-- the members of the groups that are present, by name -/
def groupMembers (t : ReflectionTable) : List (String × Json) :=
  AddonGroup.all.filterMap fun g => (t.groups g).map fun types => (g.name, Json.ofStrings types)

def toJson (t : ReflectionTable) : Json :=
  .object [("core", Json.ofStrings t.core), ("closureRoots", Json.ofStrings t.closureRoots),
    ("groups", .object t.groupMembers)]

/-! ## The table of a runtime crate -/

/-- names below a module path -/
def below (path : String) (names : List String) : List String := names.map fun n => path ++ "::" ++ n

/-- the event types that are always kept -/
def coreEvents : List String := [
  "DataEvent", "ProcessDataEvent", "ProcessInstanceDataEvent", "VariableInstanceDataEvent",
  "ProcessInstanceEventBody", "NodeInstanceEventBody", "ProcessErrorEventBody", "VariableInstanceEventBody",
  "UserTaskInstanceDataEvent", "UserTaskInstanceEventBody", "UserTaskDeadlineDataEvent", "UserTaskDeadlineEventBody"]

/-- the event types below which concrete types are kept -/
def rootEvents : List String := ["DataEvent", "ProcessDataEvent"]

def monitoringTypes : List String := ["hdrhistogram::Histogram", "hdrhistogram::sync::SyncHistogram"]

/-- the types of decision tracing, below the runtime crate -/
def tracingTypes : List String :=
  below "tracing::decision::trace" ["TraceEvent", "TraceHeader", "TraceEventType", "TraceResourceId"] ++
  below "tracing::decision::message" ["Message", "MessageLevel", "MessageCategory", "MessageFeelEvent",
    "MessageFeelEventSeverity", "MessageExceptionField"] ++
  below "tracing::decision::trace" ["TraceInputValue", "TraceOutputValue"] ++
  below "tracing::typed_value" ["BaseTypedValue", "TypedValue", "UnitValue", "CollectionValue", "StructureValue"] ++
  below "tracing::decision::trace" ["TraceExecutionStep", "TraceExecutionStepType"] ++
  ["tracing::decision::model::ModelEvent", "Gav"] ++
  below "decision" ["DecisionModelType", "DecisionModelMetadata", "DecisionModelMetadataKind"]

/-- the types of predictions, below the runtime crate -/
def explainabilityTypes : List String := below "explainability" ["PredictOutput", "PredictInput", "ModelIdentifier"]

def runtimeGroup (runtime : String) : AddonGroup → List String
  | .monitoring => monitoringTypes
  | .tracing => below runtime tracingTypes
  | .explainability => below runtime explainabilityTypes

/-- the table for the event types of a runtime crate -/
def ofRuntime (runtime : String) : ReflectionTable :=
  { core := below (runtime ++ "::event") coreEvents
    closureRoots := below (runtime ++ "::event") rootEvents
    groups := fun g => some (runtimeGroup runtime g) }

end ReflectionTable
end ProcessBuild
