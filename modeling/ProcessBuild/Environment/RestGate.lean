/-
The gate of REST generation. REST resources are generated unless the environment switches them off. An environment
with a planning capability and without both REST capabilities switches them off by itself, with a warning, if nothing
else is said; in any other case they need both REST capabilities.
-/
import ProcessBuild.Environment.Basic

namespace ProcessBuild

/-- how a build goes on after the gate -/
inductive RestGate where
  /-- as the environment says, or on when it says nothing -/
  | asConfigured (generateRest : Bool)
  /-- REST is off because of a planning capability -/
  | switchedOff (warning : String)
  deriving DecidableEq, Repr

namespace RestGate

def generateRest : RestGate → Bool
  | asConfigured b => b
  | switchedOff _ => false

def warning : RestGate → Option String
  | asConfigured _ => none
  | switchedOff w => some w

def property : String := "flowcanon.generate.rest"

/-- the warning that REST generation is switched off -/
def plannerWarning : String :=
  "Disabling REST generation because a planner capability is available, specify `" ++ property ++
    " = true` to re-enable it"

def missingMessage (capability : String) : String :=
  "No '" ++ capability ++ "' capability detected!\nAdd the `" ++ Capability.rest ++ "` and `" ++ Capability.restJson ++
    "` capabilities to generate REST endpoints automatically.\n" ++
    "You may also disable automated REST generation by setting `" ++ property ++ " = false`.\n" ++
    "You may also force REST generation by setting `" ++ property ++ " = true`."

def firstMissing (e : Environment) : String :=
  if e.has Capability.rest then Capability.restJson else Capability.rest

/-- how a build goes on in an environment, or the capability that it lacks -/
def check (e : Environment) : Except String RestGate :=
  if e.hasStartingWith Capability.plannerStart && !e.hasRest && e.generateRest.isNone then
    .ok (switchedOff plannerWarning)
  else
    let expected := e.generateRest.getD true
    if !e.hasRest && expected then .error (firstMissing e) else .ok (asConfigured expected)

end RestGate
end ProcessBuild
