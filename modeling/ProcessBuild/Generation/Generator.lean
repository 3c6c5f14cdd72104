/-
Generators and their discovery. A build's generators are found in a fixed order: the process files by ascending id,
then the event files, the REST resources if they are wanted, messaging, hot reload, the crate root and the manifest.
Their artifacts are gathered in that order; no path may be claimed twice.
-/
import ProcessBuild.Generation.Events
import ProcessBuild.Generation.Rest
import ProcessBuild.Generation.Messaging
import ProcessBuild.Generation.CrateRoot

namespace ProcessBuild

/-- a producer of artifacts -/
inductive Generator where
  | process (id : String)
  | events (id : String)
  | rest (id : String)
  | messaging
  | hotReload
  | crateRoot (sources processIds : List String)
  | manifest
  /-- artifacts made elsewhere, under the name of their maker -/
  | given (name : String) (artifacts : List Artifact)
  deriving DecidableEq, Repr

namespace Generator

open Generation

def name : Generator → String
  | process id => "process:" ++ id
  | events id => "events:" ++ id
  | rest id => "rest:" ++ id
  | messaging => "messaging"
  | hotReload => "hot-reload"
  | crateRoot .. => "application"
  | manifest => "manifest"
  | given name _ => name

/-- the artifact of a process, if there is a model of its id -/
def ofModel (input : GenerationInput) (id path : String) (f : ProcessModel → Except BuildError String) :
    Except BuildError (List Artifact) :=
  match input.model? id with
  | none => .ok []
  | some m => (f m).map fun content => [⟨.source, path, content⟩]

/-- the artifacts of a generator -/
def output (input : GenerationInput) : Generator → Except BuildError (List Artifact)
  | process id => ofModel input id (Source.processPath id) fun m =>
    (Translation.compileText m input.kinds input.runtimeCrate).mapError (.translation id)
  | events id => ofModel input id (Source.eventsPath id) fun m => .ok (eventsSource input.runtime m)
  | rest id => ofModel input id (Source.restPath id) fun m => .ok (restSource input.runtime m)
  | messaging => .ok [⟨.source, messagingPath, messagingSource input.runtime⟩]
  | hotReload => .ok [⟨.source, hotReloadPath, hotReloadSource input.models⟩]
  | crateRoot sources processIds =>
    (crateRootSource input.runtime sources processIds).map fun content => [⟨.source, Source.crateRoot, content⟩]
  | manifest => .ok [⟨.resource, manifestPath, manifestText input.crateName input.models⟩]
  | given _ artifacts => .ok artifacts

/-- the source file that a generator makes a module of, if it makes one -/
def moduleSource? : Generator → Option String
  | process id => some (Source.processPath id)
  | events id => some (Source.eventsPath id)
  | rest id => some (Source.restPath id)
  | messaging => some messagingPath
  | hotReload => some hotReloadPath
  | _ => none

end Generator

namespace Generation

/-- the ids of models in ascending order, as often as they occur -/
def sortedIds (models : List ProcessModel) : List String := (models.map (·.id)).mergeSort fun a b => a ≤ b

/-- the generators of a build, in order -/
def discover (models : List ProcessModel) (e : Environment) (generateRest : Bool) : List Generator :=
  let ids := sortedIds models
  let sources := ids.map Generator.process ++ ids.map Generator.events ++
    (if generateRest then ids.map Generator.rest else []) ++
    (if e.has Capability.messaging then [Generator.messaging] else []) ++
    (if e.liveReload then [] else [Generator.hotReload])
  sources ++ [.crateRoot (sources.filterMap Generator.moduleSource?) ids, .manifest]

/-- claim the paths of a generator's artifacts; the claims so far are paths with the names of their generators -/
def claim (name : String) : List (String × String) → List Artifact →
    Except BuildError (List (String × String))
  | owners, [] => .ok owners
  | owners, a :: rest =>
    match owners.find? (·.1 = a.path) with
    | some owner => .error (.collision a.path owner.2 name)
    | none => claim name ((a.path, name) :: owners) rest

/-- gather the outputs of generators in order: the first failure, or a path claimed twice before it, ends it -/
def gather : List (String × String) → List (String × Except BuildError (List Artifact)) →
    Except BuildError (List Artifact)
  | _, [] => .ok []
  | owners, (name, output) :: rest => do
    let artifacts ← output
    let owners ← claim name owners artifacts
    let others ← gather owners rest
    return artifacts ++ others

/-- whether a generator came upon a module name that is no identifier -/
def isUnusableName : String × Except BuildError (List Artifact) → Bool
  | (_, .error (.unusableModuleName _)) => true
  | _ => false

/-- the artifacts of a list of generators; a module name that is no identifier counts before any other failure -/
def run (generators : List Generator) (input : GenerationInput) : Except BuildError (List Artifact) :=
  let outputs := generators.map fun g => (g.name, g.output input)
  match outputs.find? isUnusableName with
  | some (_, output) => output
  | none => gather [] outputs

end Generation
end ProcessBuild
