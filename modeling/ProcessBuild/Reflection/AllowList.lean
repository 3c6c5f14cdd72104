/-
The allow-list: the types that stay introspectable and instantiable when the application is packaged. It is the union
of the core types, of the types of the enabled groups and of the concrete types below the closure roots.
-/
import ProcessBuild.Reflection.Table
import ProcessBuild.TypeIndex.Subtypes

namespace ProcessBuild

/-- one type of an allow-list -/
structure AllowListEntry where
  name : String
  introspection : Bool
  instantiation : Bool
  deriving DecidableEq, Repr

namespace AllowListEntry

/-- the entry of a type that stays both introspectable and instantiable -/
def preserved (name : String) : AllowListEntry := ⟨name, true, true⟩

/-- no comes before yes -/
def flagBefore (a b : Bool) : Bool := !a && b

/-- the order of entries: by name, then by introspection, then by instantiation -/
def before (a b : AllowListEntry) : Bool :=
  a.name < b.name || (a.name = b.name && (flagBefore a.introspection b.introspection ||
    (a.introspection = b.introspection && flagBefore a.instantiation b.instantiation)))

def toJson (e : AllowListEntry) : Json :=
  .object [("name", .string e.name), ("introspection", .bool e.introspection), ("instantiation", .bool e.instantiation)]

end AllowListEntry

/-- the entries of an allow-list in ascending order -/
abbrev AllowList := List AllowListEntry

namespace AllowList

def insert (e : AllowListEntry) : AllowList → AllowList
  | [] => [e]
  | a :: rest => if e.before a then e :: a :: rest else if e = a then a :: rest else a :: insert e rest

def ofEntries (entries : List AllowListEntry) : AllowList := entries.foldl (fun l e => insert e l) []

/-- the concrete types below the closure roots of a table -/
def discovered (index : TypeIndex) (table : ReflectionTable) : NameSet :=
  table.closureRoots.foldl (fun s root => s.union (index.concreteSubtypes root)) NameSet.empty

def ofIndex (index : TypeIndex) (table : ReflectionTable) (addons : Addons) : AllowList :=
  let names := NameSet.ofList (table.core ++ table.enabledTypes addons)
  ofEntries ((names.toList ++ (discovered index table).toList).map AllowListEntry.preserved)

def names (l : AllowList) : List String := l.map (·.name)

def fileText (l : AllowList) : String := (Json.array (l.map AllowListEntry.toJson)).pretty

/-- the path of the allow-list file below the output directory -/
def filePath : String := "reflection-config.json"

end AllowList
end ProcessBuild
