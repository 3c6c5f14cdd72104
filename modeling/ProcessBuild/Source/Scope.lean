/-
Names in a module. A use declaration stands for a list of imports, each of one name or of everything in a module; the
scope of a module holds the types it declares and its imports, and gives every path the full name that it stands for.
-/
import ProcessBuild.Source.Item
import ProcessBuild.Names.NameSet

namespace ProcessBuild.Source

/-- one thing that a use declaration brings in, by the names that lead to it -/
inductive Import where
  | name (as : String) (segments : List String)
  | everything (segments : List String)
  deriving DecidableEq, Repr

mutual

/-- the imports of a use declaration below the names that lead to it; `self` stands for the last of these names -/
def UseTree.imports (above : List String) : UseTree → List Import
  | .path first tree => tree.imports (above ++ [first])
  | .name last =>
    if last = "self" then above.getLast?.toList.map fun module => .name module above
    else [.name last (above ++ [last])]
  | .rename last newName => [.name newName (above ++ [last])]
  | .glob => [.everything above]
  | .group trees => UseTree.importsOfAll above trees

/-- the imports of several branches of a use declaration -/
def UseTree.importsOfAll (above : List String) : List UseTree → List Import
  | [] => []
  | tree :: rest => tree.imports above ++ UseTree.importsOfAll above rest

end

/-- a full name made of segments -/
def joinSegments (segments : List String) : String := String.intercalate "::" segments

def beforeLastSeparator : List Char → Option (List Char)
  | [] => none
  | c :: r =>
    match beforeLastSeparator r with
    | some before => some (c :: before)
    | none => if c = ':' ∧ r.head? = some ':' then some [] else none

/-- what paths are resolved by in a module -/
structure Scope where
  crateName : String
  modulePath : String
  /-- the types declared in the module -/
  locals : NameSet
  /-- the imported names and what they stand for; a later import of a name counts over an earlier one -/
  imports : NameMap String
  /-- the modules of which everything is imported, in order -/
  globs : List String

namespace Scope

/-- the module around the module, or the crate -/
def parent (s : Scope) : String :=
  match beforeLastSeparator s.modulePath.toList with
  | some before => String.ofList before
  | none => s.crateName

/-- the full name that the segments of a use declaration stand for; only the first segment can name a place, an empty
one names the root -/
def absolute (s : Scope) : List String → String
  | [] => ""
  | first :: rest =>
    if first = "" then joinSegments rest
    else if first = "crate" then joinSegments (s.crateName :: rest)
    else if first = "self" then joinSegments (s.modulePath :: rest)
    else if first = "super" then joinSegments (s.parent :: rest)
    else joinSegments (first :: rest)

/-- the full name of a type that the module declares -/
def localName (s : Scope) (name : String) : String := s.modulePath ++ "::" ++ name

def addImport (s : Scope) : Import → Scope
  | .name as segments => { s with imports := s.imports.insert as (s.absolute segments) }
  | .everything segments => { s with globs := s.globs ++ [s.absolute segments] }

/-- take in a declaration of the module -/
def addItem (s : Scope) : Item → Scope
  | .struct name => { s with locals := s.locals.insert name }
  | .enum name => { s with locals := s.locals.insert name }
  | .trait name _ => { s with locals := s.locals.insert name }
  | .use absolute tree => (tree.imports (if absolute then [""] else [])).foldl addImport s
  | _ => s

def empty (crateName modulePath : String) : Scope :=
  ⟨crateName, modulePath, NameSet.empty, NameMap.empty, []⟩

/-- the scope of a module with some items -/
def ofItems (crateName modulePath : String) (items : List Item) : Scope :=
  items.foldl addItem (empty crateName modulePath)

/-- the full name that the first segment of a path stands for; `alone` when there is no other segment, and only then
it can be a type of the module or of a module of which everything is imported -/
def resolveFirst (s : Scope) (alone : Bool) (first : String) : String :=
  if first = "crate" ∨ first = "self" ∨ first = "super" then s.absolute [first]
  else if alone && s.locals.contains first then s.localName first
  else
    match s.imports.get? first with
    | some name => name
    | none =>
      if alone then
        match s.globs with
        | glob :: _ => glob ++ "::" ++ first
        | [] => s.localName first
      else first

/-- the full name that a path stands for -/
def resolve (s : Scope) (p : Path) : String :=
  match p.segments with
  | [] => ""
  | first :: rest =>
    if p.absolute then joinSegments (first :: rest)
    else joinSegments (s.resolveFirst rest.isEmpty first :: rest)

end Scope
end ProcessBuild.Source
