/-
Generated artifacts and what generators know: the models of the build, the node kinds that can be translated and the
names of the generated crate and of the crate that provides the builders.
-/
import ProcessBuild.Translation.Program
import ProcessBuild.Build.Error

namespace ProcessBuild

/-- what becomes of an artifact: source is compiled and indexed, a resource is only written -/
inductive ArtifactKind where
  | source
  | resource
  deriving DecidableEq, Repr

/-- a generated file, by its path below the output directory -/
structure Artifact where
  kind : ArtifactKind
  path : String
  content : String
  deriving DecidableEq, Repr

/-- what generators know of a build -/
structure GenerationInput where
  models : List ProcessModel
  kinds : Translation.Kinds
  crateName : String
  runtimeCrate : String

namespace GenerationInput

/-- the first model of a process id -/
def model? (input : GenerationInput) (id : String) : Option ProcessModel := input.models.find? (·.id = id)

/-- the name of the runtime crate in generated paths -/
def runtime (input : GenerationInput) : String := Source.identifierOf input.runtimeCrate

end GenerationInput

namespace Generation

def isControl (c : Char) : Bool :=
  let n := c.toNat
  n < 0x20 || (0x7f ≤ n && n ≤ 0x9f)

/-- a text as part of a comment line: control characters become spaces -/
def commentText (s : String) : String := String.ofList (s.toList.map fun c => if isControl c then ' ' else c)

/-- lines of text, each with its line end -/
def lines (ls : List String) : String := String.join (ls.map (· ++ "\n"))

/-- lines of text with a line end between each two -/
def joinLines (ls : List String) : String := String.intercalate "\n" ls

end Generation
end ProcessBuild
