/-
Compiled sources. A source artifact is read as source text; the unit keeps its module, the checksum of its text and the
types that it tells of, and the index of a build takes in what every unit tells.
-/
import ProcessBuild.Build.Error
import ProcessBuild.Digest.Sha256
import ProcessBuild.Generation.Artifact
import ProcessBuild.Source.Grammar
import ProcessBuild.Source.Naming
import ProcessBuild.TypeIndex.Declarations

namespace ProcessBuild

/-- a compiled source artifact -/
structure CompiledUnit where
  path : String
  modulePath : String
  checksum : String
  declarations : TypeIndex

namespace CompiledUnit

def diagnostic (f : Source.FileFault) : String :=
  toString f.place.line ++ ":" ++ toString f.place.column ++ ": " ++ f.fault.message

def ofArtifact (crateName : String) (a : Artifact) : Except BuildError CompiledUnit :=
  match Source.readFile a.content with
  | .error f => .error (.compilation a.path (diagnostic f))
  | .ok items =>
    let modulePath := Source.modulePath crateName a.path
    .ok {
      path := a.path
      modulePath
      checksum := Sha256.digestOf a.content
      declarations := TypeIndex.ofItems crateName modulePath items }

/-- compile the source artifacts in order, up to the first one that does not compile -/
def ofArtifacts (crateName : String) (artifacts : List Artifact) : Except BuildError (List CompiledUnit) :=
  (artifacts.filter (·.kind = .source)).mapM (ofArtifact crateName)

end CompiledUnit

/-- take in what units tell of types -/
def TypeIndex.addUnits (index : TypeIndex) (units : List CompiledUnit) : TypeIndex :=
  units.foldl (fun index u => index.merge u.declarations) index

end ProcessBuild
