/-
Why a build fails.
-/
import ProcessBuild.Build.Settings
import ProcessBuild.Environment.RestGate
import ProcessBuild.Files.Tree
import ProcessBuild.Translation.Fault

namespace ProcessBuild

inductive BuildError where
  /-- a process has a node that cannot be translated -/
  | translation (processId : String) (fault : Translation.Fault)
  /-- two generators made an artifact at one path -/
  | collision (path first second : String)
  /-- the crate root would declare a module under a name that is no identifier -/
  | unusableModuleName (name : String)
  /-- generated code does not compile -/
  | compilation (path diagnostic : String)
  /-- the environment lacks a capability -/
  | missingCapability (name : String)
  /-- a setting has an unusable value -/
  | setting (fault : SettingFault)
  /-- a file operation failed -/
  | files (fault : Files.Fault)
  /-- a text is not the JSON that is expected of it -/
  | json (message : String)
  deriving DecidableEq, Repr

def BuildError.message : BuildError → String
  | translation processId fault => "Process '" ++ processId ++ "': " ++ fault.message
  | collision path first second =>
    "Artifact path '" ++ path ++ "' is produced by both '" ++ first ++ "' and '" ++ second ++ "'"
  | unusableModuleName name => "module name " ++ Text.debug name ++ " is not an identifier"
  | compilation path diagnostic =>
    "Generated artifact '" ++ path ++ "' failed to compile: " ++ diagnostic ++
      "\n\nThis is likely a code generation bug. Please report this issue."
  | missingCapability name => RestGate.missingMessage name
  | setting fault => "Configuration error: " ++ fault.message
  | files fault => "IO error: " ++ fault.message
  | json message => "JSON error: " ++ message

end ProcessBuild
