/-
Reading back type indexes and dependency closures: whatever is known of types, it is read as itself from its arranged
members.
-/
import ProcessBuild.Proofs.Json.Fields
import ProcessBuild.TypeIndex.Codec

namespace ProcessBuild

open Decode Json

def TypeInfo.fields (t : TypeInfo) : List (String × Option Json) :=
  [("kind", t.kind.map fun k => .string k.name), ("supertype", t.supertype.map .string),
    ("interfaces", leftOutIf t.interfaces.isEmpty (ofStrings t.interfaces.toList))]

def DependencyClosure.fields (c : DependencyClosure) : List (String × Option Json) :=
  [("index", some c.index.toJson), ("libraryDirs", leftOutIf c.libraryDirs.isEmpty (ofStrings c.libraryDirs)),
    ("externs", leftOutIf c.externs.isEmpty (.object (c.externs.entries.map fun e => (e.1, .string e.2))))]

theorem TypeInfo.toJson_eq (t : TypeInfo) : t.toJson = .object (present t.fields) := by
  rw [toJson, present_toList, present_toList, present_leftOutIf, ← present_append, ← present_append]
  rfl

theorem DependencyClosure.toJson_eq (c : DependencyClosure) : c.toJson = .object (present c.fields) := by
  rw [toJson, present_leftOutIf, present_leftOutIf]
  show Json.object (present [("index", some _)] ++ present [_] ++ present [_]) = _
  rw [← present_append, ← present_append]
  rfl

section ReadBack

variable {f : Json → Json} (arranges : Arranges f)

include arranges

theorem TypeKind.read_name (k : TypeKind) : optional (choice .document TypeKind.names) (f (.string k.name)) = .ok (some k) := by
  rw [arranges.string]
  cases k <;> rfl

theorem TypeInfo.read_toJson (t : TypeInfo) : TypeInfo.ofJson (f t.toJson) = .ok t := by
  obtain ⟨ms, arranged, found⟩ := arranges.object_present t.fields (by simp [fields])
  rw [toJson_eq, arranged, TypeInfo.ofJson]
  obtain ⟨kind, supertype, interfaces⟩ := t
  simp only [fields, List.forall_mem_cons] at found
  obtain ⟨hasKind, hasSupertype, hasInterfaces, -⟩ := found
  obtain ⟨_, kindRead, rfl⟩ := member_optional hasKind (TypeKind.read_name arranges)
  obtain ⟨_, supertypeRead, rfl⟩ := member_optional hasSupertype (optional_string_read arranges)
  obtain ⟨_, interfacesRead, rfl⟩ := member_default hasInterfaces (nameSet_read arranges interfaces)
    NameSet.eq_empty_of_isEmpty
  rw [interfacesRead, kindRead, supertypeRead]
  rfl

theorem TypeIndex.read_toJson (index : TypeIndex) : TypeIndex.ofJson (f index.toJson) = .ok index := by
  rw [TypeIndex.ofJson, TypeIndex.toJson, nameMap_read arranges fun e _ => e.2.read_toJson arranges]
  rfl

/-- **A dependency closure** is read back. -/
theorem DependencyClosure.read_toJson (c : DependencyClosure) : DependencyClosure.ofJson (f c.toJson) = .ok c := by
  obtain ⟨ms, arranged, found⟩ := arranges.object_present c.fields (by simp [fields])
  rw [toJson_eq, arranged, DependencyClosure.ofJson]
  obtain ⟨index, libraryDirs, externs⟩ := c
  simp only [fields, List.forall_mem_cons] at found
  obtain ⟨hasIndex, hasDirs, hasExterns, -⟩ := found
  obtain ⟨_, dirsRead, rfl⟩ := member_default hasDirs (list_read arranges fun dir _ => path_read arranges dir)
    List.isEmpty_iff.1
  obtain ⟨_, externsRead, rfl⟩ := member_default hasExterns (nameMap_read arranges fun e _ => path_read arranges e.2)
    NameMap.eq_empty_of_isEmpty
  rw [externsRead, member_read hasIndex (index.read_toJson arranges), dirsRead]
  rfl

end ReadBack

end ProcessBuild
