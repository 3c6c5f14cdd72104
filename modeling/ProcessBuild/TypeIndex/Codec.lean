/-
Type indexes and dependency closures as JSON. A closure is what the generated code is compiled against: an index of
the types of its dependencies, the directories to search and the compiled library of each crate.
-/
import ProcessBuild.TypeIndex.Basic

namespace ProcessBuild

open Decode

namespace TypeInfo

def ofJson : Json → Decoded TypeInfo
  | .object ms => do
    let interfaces ← member ms "interfaces" nameSet
    let kind ← member ms "kind" (optional (choice .document TypeKind.names))
    let supertype ← member ms "supertype" (optional string)
    return {
      kind := kind.getD none, supertype := supertype.getD none
      interfaces := interfaces.getD NameSet.empty }
  | .array xs => do
    let kind ← elementOr none xs 0 (optional (choice .document TypeKind.names))
    let supertype ← elementOr none xs 1 (optional string)
    let interfaces ← elementOr NameSet.empty xs 2 nameSet
    noMoreThan .document 3 xs
    return { kind, supertype, interfaces }
  | v => wrongType v "struct TypeInfo"

/-- what is known of one type, as an object without empty members -/
def toJson (t : TypeInfo) : Json :=
  .object ((t.kind.toList.map fun k => ("kind", Json.string k.name)) ++
    (t.supertype.toList.map fun s => ("supertype", Json.string s)) ++
    if t.interfaces.isEmpty then [] else [("interfaces", Json.ofStrings t.interfaces.toList)])

end TypeInfo

namespace TypeIndex

def ofJson (v : Json) : Decoded TypeIndex := TypeIndex.mk <$> nameMap TypeInfo.ofJson v

def toJson (index : TypeIndex) : Json := .object (index.types.entries.map fun e => (e.1, e.2.toJson))

end TypeIndex

/-- what the generated code is compiled against -/
structure DependencyClosure where
  index : TypeIndex := TypeIndex.empty
  libraryDirs : List String := []
  externs : NameMap String := NameMap.empty
  deriving Inhabited

namespace DependencyClosure

def ofJson : Json → Decoded DependencyClosure
  | .object ms => do
    let externs ← member ms "externs" (nameMap path)
    let index ← member ms "index" TypeIndex.ofJson
    let libraryDirs ← member ms "libraryDirs" (list path)
    return {
      index := index.getD TypeIndex.empty, libraryDirs := libraryDirs.getD []
      externs := externs.getD NameMap.empty }
  | .array xs => do
    let index ← elementOr TypeIndex.empty xs 0 TypeIndex.ofJson
    let libraryDirs ← elementOr [] xs 1 (list path)
    let externs ← elementOr NameMap.empty xs 2 (nameMap path)
    noMoreThan .document 3 xs
    return { index, libraryDirs, externs }
  | v => wrongType v "struct DependencyClosure"

def toJson (c : DependencyClosure) : Json :=
  .object (("index", c.index.toJson) ::
    (if c.libraryDirs.isEmpty then [] else [("libraryDirs", Json.ofStrings c.libraryDirs)]) ++
    if c.externs.isEmpty then [] else [("externs", .object (c.externs.entries.map fun e => (e.1, .string e.2)))])

end DependencyClosure
end ProcessBuild
