/-
Names in generated source. Any text can be turned into an identifier; process ids give the name of the process type,
the file stem and the paths of the generated files; paths give the names of modules.
-/
import ProcessBuild.Text.Word

namespace ProcessBuild.Source

open Text

/-- a character of an ASCII identifier -/
def isNameChar (c : Char) : Bool := isAlnum c || c == '_'

/-- a character of an identifier, or an underscore in its place -/
def nameChar (c : Char) : Char := if isNameChar c then c else '_'

/-- an identifier made of a text: other characters become underscores, a leading digit is put after one -/
def identifierChars : List Char → List Char
  | [] => ['_', 'e', 'm', 'p', 't', 'y']
  | c :: rest => (if isDigit c then ['_', c] else [nameChar c]) ++ rest.map nameChar

/-- an identifier made of a text -/
def identifierOf (s : String) : String := String.ofList (identifierChars s.toList)

/-- whether a text is an identifier: a word start followed by characters that go on a word -/
def isIdentifier (s : String) : Bool :=
  match s.toList with
  | [] => false
  | c :: rest => isWordStart c && rest.all isWordRest

/-- an ASCII letter in upper case -/
def upper (c : Char) : Char := if 'a' ≤ c ∧ c ≤ 'z' then Char.ofNat (c.toNat - 32) else c

/-- an ASCII letter in lower case -/
def lower (c : Char) : Char := if 'A' ≤ c ∧ c ≤ 'Z' then Char.ofNat (c.toNat + 32) else c

/-- the letters and digits of a text, each run of them with its first letter in upper case; `fresh` at a run's start -/
def camelCase (fresh : Bool) : List Char → List Char
  | [] => []
  | c :: rest => if isAlnum c then (if fresh then upper c else c) :: camelCase false rest else camelCase true rest

/-- the name of the type generated for a process -/
def processTypeName (processId : String) : String :=
  let name := camelCase true processId.toList
  let name := if name.isEmpty || name.head?.any isDigit then 'P' :: name else name
  String.ofList (name ++ ['P', 'r', 'o', 'c', 'e', 's', 's'])

/-- the stem of the files generated for a process -/
def fileStem (processId : String) : String := identifierOf (String.ofList (processId.toList.map lower))

def processPath (processId : String) : String := "processes/" ++ fileStem processId ++ ".rs"

def eventsPath (processId : String) : String := "events/" ++ fileStem processId ++ "_events.rs"

def restPath (processId : String) : String := "rest/" ++ fileStem processId ++ "_resource.rs"

/-- the source file that stands for the whole crate -/
def crateRoot : String := "lib.rs"

/-- the name of the crate root without its ending -/
def crateRootStem : List Char := ['l', 'i', 'b']

/-- a list without a given ending, or the list -/
def dropEnding (ending s : List Char) : List Char :=
  if ending.isSuffixOf s then s.take (s.length - ending.length) else s

/-- the module that a source file becomes; none for the crate root -/
def moduleName (path : String) : Option String :=
  let stem := dropEnding ['.', 'r', 's'] path.toList
  if stem = crateRootStem then none
  else some (String.ofList (stem.map fun c => if isAlnum c then c else '_'))

/-- the full path of the module that a source file becomes -/
def modulePath (crateName path : String) : String :=
  match moduleName path with
  | some m => crateName ++ "::" ++ m
  | none => crateName

/-! ## Splitting paths -/

/-- split at each pair of colons and each dot -/
def splitPath : List Char → List Char → List (List Char)
  | current, [] => [current.reverse]
  | current, ':' :: ':' :: rest => current.reverse :: splitPath [] rest
  | current, c :: rest => if c = '.' then current.reverse :: splitPath [] rest else splitPath (c :: current) rest

/-- the segments of a type path written with colons or dots, as identifiers -/
def pathSegments (s : String) : List String :=
  ((splitPath [] s.toList).filter fun p => !p.isEmpty).map fun p => String.ofList (identifierChars p)

end ProcessBuild.Source
