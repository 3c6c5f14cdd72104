/-
A build from models to an allow-list. The environment is checked, artifacts are generated, written and compiled, the
compiled sources are indexed on top of the dependencies, and the allow-list is derived and written. The first failure
ends the build; what was written before it stays.
-/
import ProcessBuild.Build.Compiler
import ProcessBuild.Build.Unit
import ProcessBuild.Files.Tree
import ProcessBuild.Generation.Generator
import ProcessBuild.Reflection.AllowList

namespace ProcessBuild

/-- what a build is made from -/
structure BuildInput where
  settings : BuildSettings
  models : List ProcessModel
  environment : Environment
  closure : DependencyClosure
  kinds : Translation.Kinds := Translation.Kinds.full
  table : ReflectionTable

structure BuildOutput where
  gate : RestGate
  artifacts : List Artifact
  units : List CompiledUnit
  index : TypeIndex
  allowList : AllowList

/-- what a build changes: the file tree, and the call of the external compiler if it was answered -/
structure BuildState where
  tree : Files.Tree
  call : Option CompilerCall := none

abbrev BuildStage := ExceptT BuildError (StateM BuildState)

namespace BuildStage

/-- a stage that changes nothing -/
def ofExcept {α : Type} (e : Except BuildError α) : BuildStage α := fun s => (e, s)

def files {α : Type} (action : Files.Action α) : BuildStage α := fun s =>
  let (result, tree) := action s.tree
  (result.mapError .files, { s with tree })

end BuildStage

/-- write artifacts below a directory, in order -/
def writeArtifacts (root : String) (artifacts : List Artifact) : Files.Action Unit := do
  Files.ensureDirectories root
  artifacts.forM fun a => Files.writeFileDeep (Files.join root a.path) a.content

def callCompiler (compiler : ExternalCompiler) (call : CompilerCall) : BuildStage CompilerAnswer := fun s =>
  match s.tree.locate call.directory >>= s.tree.requireDirectory with
  | .error fault => (.error (.files fault), s)
  | .ok () =>
    match compiler call with
    | none => (.error (.files .notFound), s)
    | some answer => (.ok answer, { s with call := some call })

/-- compile the sources, and let the external compiler check the crate if there is a crate root -/
def checkArtifacts (compiler : ExternalCompiler) (crateName outputDir : String) (closure : DependencyClosure)
    (artifacts : List Artifact) : BuildStage (List CompiledUnit) := do
  let units ← BuildStage.ofExcept (CompiledUnit.ofArtifacts crateName artifacts)
  if artifacts.any fun a => a.path = Source.crateRoot then
    let answer ← callCompiler compiler (CompilerCall.ofCrate crateName outputDir closure)
    if answer.succeeded then return units
    else
      let diagnosis := Diagnosis.ofReport answer.report outputDir
      throw (.compilation diagnosis.path diagnosis.reason)
  else return units

namespace BuildInput

/-- what the generators of a build know -/
def generation (input : BuildInput) : GenerationInput :=
  { models := input.models, kinds := input.kinds, crateName := input.settings.crateName
    runtimeCrate := input.settings.runtimeCrate }

/-- the artifacts of a build behind its gate -/
def artifacts (input : BuildInput) (gate : RestGate) : Except BuildError (List Artifact) :=
  Generation.run (Generation.discover input.models input.environment gate.generateRest) input.generation

def compile (input : BuildInput) (compiler : ExternalCompiler) (artifacts : List Artifact) :
    BuildStage (List CompiledUnit) :=
  if input.settings.compilerCheck then
    checkArtifacts compiler input.settings.crateName input.settings.outputDir input.closure artifacts
  else BuildStage.ofExcept (CompiledUnit.ofArtifacts input.settings.crateName artifacts)

def run (input : BuildInput) (compiler : ExternalCompiler) : BuildStage BuildOutput := do
  let gate ← BuildStage.ofExcept ((RestGate.check input.environment).mapError .missingCapability)
  let artifacts ← BuildStage.ofExcept (input.artifacts gate)
  BuildStage.files (writeArtifacts input.settings.outputDir artifacts)
  let units ← input.compile compiler artifacts
  let index := input.closure.index.addUnits units
  let allowList := AllowList.ofIndex index input.table input.environment.addons
  BuildStage.files
    (Files.writeFile (Files.join input.settings.outputDir AllowList.filePath) allowList.fileText)
  return { gate, artifacts, units, index, allowList }

end BuildInput
end ProcessBuild
