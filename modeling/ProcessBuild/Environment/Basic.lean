/-
Environment descriptors: the capabilities and switches of the environment that the generated code is meant for.
-/
import ProcessBuild.Json.Decode

namespace ProcessBuild

open Decode

/-- the optional addons -/
structure Addons where
  monitoring : Bool := false
  tracing : Bool := false
  explainability : Bool := false
  deriving DecidableEq, Repr, Inhabited

/-- what is known of the environment -/
structure Environment where
  capabilities : NameSet := NameSet.empty
  addons : Addons := {}
  generateRest : Option Bool := none
  liveReload : Bool := false
  deriving DecidableEq, Inhabited

namespace Capability

def rest : String := "rest"

def restJson : String := "rest-json"

/-- the start of the names of all planning capabilities -/
def plannerStart : String := "planner"

def messaging : String := "messaging"

end Capability

namespace Addons

def ofJson : Json → Decoded Addons
  | .object ms => do
    let explainability ← member ms "explainability" bool
    let monitoring ← member ms "monitoring" bool
    let tracing ← member ms "tracing" bool
    return {
      monitoring := monitoring.getD false, tracing := tracing.getD false
      explainability := explainability.getD false }
  | .array xs => do
    let monitoring ← elementOr false xs 0 bool
    let tracing ← elementOr false xs 1 bool
    let explainability ← elementOr false xs 2 bool
    noMoreThan .document 3 xs
    return { monitoring, tracing, explainability }
  | v => wrongType v "struct AddonsConfig"

def toJson (a : Addons) : Json :=
  .object [("monitoring", .bool a.monitoring), ("tracing", .bool a.tracing),
    ("explainability", .bool a.explainability)]

end Addons

namespace Environment

def ofJson : Json → Decoded Environment
  | .object ms => do
    let addons ← member ms "addons" Addons.ofJson
    let capabilities ← member ms "capabilities" nameSet
    let generateRest ← member ms "generateRest" (optional bool)
    let liveReload ← member ms "liveReload" bool
    return {
      capabilities := capabilities.getD NameSet.empty, addons := addons.getD {}
      generateRest := generateRest.getD none, liveReload := liveReload.getD false }
  | .array xs => do
    let capabilities ← elementOr NameSet.empty xs 0 nameSet
    let addons ← elementOr {} xs 1 Addons.ofJson
    let generateRest ← elementOr none xs 2 (optional bool)
    let liveReload ← elementOr false xs 3 bool
    noMoreThan .document 4 xs
    return { capabilities, addons, generateRest, liveReload }
  | v => wrongType v "struct EnvironmentDescriptor"

def toJson (e : Environment) : Json :=
  .object ([("capabilities", Json.ofStrings e.capabilities.toList), ("addons", e.addons.toJson)] ++
    (e.generateRest.toList.map fun b => ("generateRest", Json.bool b)) ++ [("liveReload", .bool e.liveReload)])

/-- the words for a value that is not an environment descriptor -/
def faultMessage (fault : DecodeFault) : String := "Failed to parse environment descriptor: " ++ fault.message

def has (e : Environment) (name : String) : Bool := e.capabilities.contains name

/-- whether the name of a capability starts with the given text -/
def hasStartingWith (e : Environment) (start : String) : Bool :=
  e.capabilities.toList.any fun c => start.toList.isPrefixOf c.toList

def hasRest (e : Environment) : Bool := e.has Capability.rest && e.has Capability.restJson

end Environment
end ProcessBuild
