/-
Build settings. They come from environment variables, each with a default; a value that cannot be used is a fault.
Crate names are checked before the switch of the compiler check, the name of the generated crate first.
-/
import ProcessBuild.Names.NameMap
import ProcessBuild.Source.Naming
import ProcessBuild.Text.Blank

namespace ProcessBuild

/-- a variable with a value that cannot be used -/
structure SettingFault where
  variableName : String
  requirement : String
  deriving DecidableEq, Repr

def SettingFault.message (f : SettingFault) : String := "invalid value for " ++ f.variableName ++ ": " ++ f.requirement

/-- environment variables -/
abbrev Variables := NameMap String

structure BuildSettings where
  /-- the directory that everything is written to -/
  outputDir : String := ".flowcanon/generated"
  /-- the name of the generated crate -/
  crateName : String := "flowcanon_app"
  /-- the crate that provides the builders -/
  runtimeCrate : String := "flowcanon_runtime"
  /-- whether the external compiler checks the generated crate -/
  compilerCheck : Bool := false
  deriving DecidableEq, Repr

namespace BuildSettings

def outputDirVariable : String := "FLOWCANON_OUTPUT_DIR"

def crateNameVariable : String := "FLOWCANON_CRATE_NAME"

def runtimeCrateVariable : String := "FLOWCANON_RUNTIME_CRATE"

def compilerCheckVariable : String := "FLOWCANON_RUSTC_CHECK"

/-- whether a text is a crate name: ASCII letters, digits and underscores, and no digit first -/
def isCrateName (s : String) : Bool :=
  match s.toList with
  | [] => false
  | c :: r => (c :: r).all Source.isNameChar && !Text.isDigit c

/-- a switch: blanks around it and the case of ASCII letters do not count -/
def switch? (value : String) : Option Bool :=
  let word := String.ofList ((Text.trim value.toList).map Source.lower)
  if ["true", "1", "yes"].contains word then some true
  else if ["false", "0", "no"].contains word then some false
  else none

def crateNameOf (vars : Variables) (name default : String) : Except SettingFault String :=
  let value := (vars.get? name).getD default
  if isCrateName value then .ok value
  else .error ⟨name, "must be a valid Rust crate name (letters, digits, underscores)"⟩

def compilerCheckOf (vars : Variables) (default : Bool) : Except SettingFault Bool :=
  match vars.get? compilerCheckVariable with
  | none => .ok default
  | some value =>
    match switch? value with
    | some b => .ok b
    | none => .error ⟨compilerCheckVariable, "must be true or false"⟩

def ofVariables (vars : Variables) : Except SettingFault BuildSettings := do
  let defaults : BuildSettings := {}
  let crateName ← crateNameOf vars crateNameVariable defaults.crateName
  let runtimeCrate ← crateNameOf vars runtimeCrateVariable defaults.runtimeCrate
  let compilerCheck ← compilerCheckOf vars defaults.compilerCheck
  return {
    outputDir := (vars.get? outputDirVariable).getD defaults.outputDir
    crateName, runtimeCrate, compilerCheck }

end BuildSettings
end ProcessBuild
