/-
Calls for metadata entries and variables. Metadata values of a kind that generated code cannot carry are left out; a
variable is declared once in a process, by the first scope that names it.
-/
import ProcessBuild.Translation.Context

namespace ProcessBuild.Translation

open Builder

/-- the argument that carries a metadata value; none for a kind that is not supported -/
def valueArgument : MetadataValue → Option Argument
  | .boolean b => some (.flag b)
  | .integer i => some (.int32 i)
  | .long i => some (.int64 i)
  | .text s => some (.text s)
  | .other _ => none

/-- one call of a method for each supported entry, in key order -/
def entryCalls (target method : String) (m : Metadata) : List Statement :=
  m.entries.filterMap fun e => (valueArgument e.2).map fun value => .call target method [.text e.1, value]

def metadataCalls (target : String) (m : Metadata) : List Statement := entryCalls target "metadata" m

/-- the name under which the tags of a variable are attached -/
def tagsKey : String := "customTags"

def variableCall (target : String) (scope : List String) (v : Variable) : Statement :=
  .call target "variable" [.text v.name, .dataType v.typeName scope, .text tagsKey, .optionalText v.tags]

/-- the calls for the variables not declared yet, and the variables declared afterwards -/
def variableCalls (target : String) (scope : List String) :
    NameSet → List Variable → List Statement × NameSet
  | visited, [] => ([], visited)
  | visited, v :: rest =>
    if visited.contains v.name then variableCalls target scope visited rest
    else
      let (calls, visited) := variableCalls target scope (visited.insert v.name) rest
      (variableCall target scope v :: calls, visited)

/-- declare the variables of a scope that are not declared yet -/
def declareVariables (target : String) (vs : List Variable) : Translate (List Statement) := fun c =>
  let (calls, visited) := variableCalls target c.scopePath c.visited vs
  (.ok calls, { c with visited })

end ProcessBuild.Translation
