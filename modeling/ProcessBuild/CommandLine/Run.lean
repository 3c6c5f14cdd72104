/-
The command line program. It reads settings, models and the files that its options name, runs a build and reports on
it. Reports go to the error stream; a successful build names its output directory on the standard stream.
-/
import ProcessBuild.Build.Run
import ProcessBuild.CommandLine.Arguments
import ProcessBuild.CommandLine.EnvFile
import ProcessBuild.Json.Reader
import ProcessBuild.Process.Codec
import ProcessBuild.Reflection.TableText

namespace ProcessBuild

/-- what a run of the program leaves behind -/
structure ProgramRun where
  exitCode : Nat
  standard : String
  errors : String
  state : BuildState

namespace Program

open Files

def readJson (t : Tree) (path : String) : Except String Json :=
  match t.read path with
  | .error fault => .error ("Error reading " ++ Text.debugPath path ++ ": " ++ fault.message)
  | .ok text => (Json.parse text).mapError fun e => "Error parsing JSON " ++ Text.debugPath path ++ ": " ++ e.message

/-- whether a file name has something before a final `.json` -/
def isJsonName (name : String) : Bool :=
  let ending := ".json".toList
  ending.isSuffixOf name.toList && ending.length < name.toList.length

/-- the model files that a path stands for: itself, or the JSON files in the directory that it is -/
def modelFilesAt (t : Tree) (path : String) : List String :=
  match t.isDirectory path, t.locate path with
  | true, .ok place => ((t.namesIn place).filter isJsonName).map (join path)
  | _, _ => [path]

def modelFiles (t : Tree) (paths : List String) : List String := sortPaths (paths.flatMap (modelFilesAt t))

def readModel (t : Tree) (path : String) : Except String ProcessModel := do
  (ProcessModel.parse (← readJson t path)).mapError fun e => Text.debugPath path ++ ": " ++ e.message

def readEnvironment (t : Tree) (path : String) : Except String Environment := do
  (Environment.ofJson (← readJson t path)).mapError Environment.faultMessage

def readClosure (t : Tree) (path : String) : Except String DependencyClosure := do
  (DependencyClosure.ofJson (← readJson t path)).mapError fun e =>
    "Error parsing dependency closure " ++ Text.debugPath path ++ ": " ++ e.message

def readTable (t : Tree) (path : String) : Except BuildError ReflectionTable := do
  let text ← (t.read path).mapError .files
  (ReflectionTable.parse text).mapError fun e => .json e.message

/-- what a file that an option names holds, or a default without the option -/
def fromOption {α : Type} (path : Option String) (read : String → Except String α) (default : α) : Except String α :=
  match path with
  | some p => read p
  | none => .ok default

/-- what a build is made from, read in order: settings, models, environment, closure, table -/
def prepare (vars : Variables) (a : Arguments) (t : Tree) : Except String BuildInput := do
  let settings ← (BuildSettings.ofVariables vars).mapError SettingFault.message
  let settings := { settings with
    outputDir := (a.path? .output).getD settings.outputDir
    compilerCheck := settings.compilerCheck || a.compilerCheck }
  let models ← (modelFiles t a.models).mapM (readModel t)
  let environment ← fromOption (a.path? .environment) (readEnvironment t) {}
  let closure ← fromOption (a.path? .closure) (readClosure t) {}
  let table ← fromOption (a.path? .reflectionTable) (fun p => (readTable t p).mapError BuildError.message)
    (ReflectionTable.ofRuntime settings.runtimeCrate)
  return { settings, models, environment, closure, table }

def report (lines : List String) : String := String.join (lines.map (· ++ "\n"))

def failure (message : String) : List String := ["Error: " ++ message]

def success (output : BuildOutput) : List String :=
  (output.gate.warning.toList.map fun w => "Warning: " ++ w) ++ [
    "Build successful:",
    "  Artifacts: " ++ toString output.artifacts.length,
    "  Indexed types: " ++ toString output.index.size,
    "  Allow-list entries: " ++ toString output.allowList.length]

/-- run the program with arguments that can be used -/
def runWith (vars : Variables) (a : Arguments) (compiler : ExternalCompiler) (t : Tree) : ProgramRun :=
  match prepare vars a t with
  | .error message => ⟨1, "", report (failure message), { tree := t }⟩
  | .ok input =>
    let beginning := "Building " ++ toString input.models.length ++ " process(es)"
    match input.run compiler { tree := t } with
    | (.error e, state) => ⟨1, "", report (beginning :: failure ("Build failed: " ++ e.message)), state⟩
    | (.ok output, state) =>
      ⟨0, report [input.settings.outputDir], report (beginning :: success output), state⟩

def envFileName : String := ".env"

/-- the text of the environment file in a directory or in the nearest directory around it; the fuel is the depth -/
def envFileFrom (t : Tree) : Nat → Location → Option String
  | 0, place => t.content? (place ++ [envFileName])
  | n + 1, place =>
    match t.content? (place ++ [envFileName]) with
    | some text => some text
    | none => envFileFrom t n place.dropLast

/-- the variables of the program, with those of an environment file -/
def loadVariables (vars : Variables) (t : Tree) : Variables :=
  match envFileFrom t t.here.length t.here with
  | some text => EnvFile.load vars text
  | none => vars

/-- run the program; none when its arguments cannot be used -/
def run (vars : Variables) (arguments : List String) (compiler : ExternalCompiler) (t : Tree) :
    Option ProgramRun :=
  let vars := loadVariables vars t
  (Arguments.read? vars arguments).map fun a => runWith vars a compiler t

end Program
end ProcessBuild
