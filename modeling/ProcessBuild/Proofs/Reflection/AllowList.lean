/-
What an allow-list keeps. A name is kept for one of three reasons and for no other: it is a core type, it is declared by
a group whose addon is on, or it is a concrete type below a closure root.
- `mem_enabledTypes`, `mem_discovered`: the types of the groups, and the types below the roots.
- `ofIndex_exact`: the allow-list of an index.
- `isWritten_fileText`: the file of an allow-list.
-/
import ProcessBuild.Proofs.Json.WrittenText
import ProcessBuild.Proofs.TypeIndex.Reachability
import ProcessBuild.Reflection.AllowList
import ProcessBuild.TypeIndex.Declarations

namespace ProcessBuild

open Relation

/-- the groups whose addons are on -/
def Addons.Enables (addons : Addons) : AddonGroup → Prop
  | .monitoring => addons.monitoring = true
  | .tracing => addons.tracing = true
  | .explainability => addons.explainability = true

theorem AddonGroup.isOn_iff {g : AddonGroup} {addons : Addons} : g.isOn addons = true ↔ addons.Enables g := by
  cases g
  all_goals exact Iff.rfl

theorem AddonGroup.mem_all (g : AddonGroup) : g ∈ AddonGroup.all := by
  cases g
  all_goals decide

theorem ReflectionTable.mem_enabledTypes {table : ReflectionTable} {addons : Addons} {name : String} :
    name ∈ table.enabledTypes addons ↔ ∃ g types, addons.Enables g ∧ table.groups g = some types ∧ name ∈ types := by
  simp only [enabledTypes, enabledGroups, List.mem_flatMap, List.mem_filter, Bool.and_eq_true]
  constructor
  · rintro ⟨g, ⟨-, isOn, isPresent⟩, declared⟩
    obtain ⟨types, present⟩ := Option.isSome_iff_exists.1 isPresent
    rw [present, Option.getD_some] at declared
    exact ⟨g, types, AddonGroup.isOn_iff.1 isOn, present, declared⟩
  · rintro ⟨g, types, enabled, present, declared⟩
    refine ⟨g, ⟨g.mem_all, AddonGroup.isOn_iff.2 enabled, Option.isSome_of_eq_some present⟩, ?_⟩
    rwa [present, Option.getD_some]

namespace AllowList

variable {index : TypeIndex} {table : ReflectionTable} {addons : Addons} {name : String}

theorem mem_foldl_union {f : String → NameSet} {roots : List String} {s : NameSet} :
    name ∈ roots.foldl (fun s root => s.union (f root)) s ↔ name ∈ s ∨ ∃ root ∈ roots, name ∈ f root := by
  induction roots generalizing s with
  | nil => simp
  | cons root roots ih =>
    simp only [List.foldl_cons, ih, NameSet.mem_union, or_assoc, List.mem_cons, exists_eq_or_imp]

theorem mem_discovered :
    name ∈ discovered index table ↔ ∃ root ∈ table.closureRoots, name ∈ index.concreteSubtypes root := by
  rw [discovered, mem_foldl_union]
  exact or_iff_right (NameSet.not_mem_empty name)

/-- entries that are all preserved are ordered by their names -/
theorem insert_preserved (name : String) (l : List String) :
    insert (.preserved name) (l.map .preserved) = (NameSet.insertList name l).map .preserved := by
  induction l with
  | nil => rfl
  | cons k rest ih =>
    have before : (AllowListEntry.preserved name).before (.preserved k) = true ↔ name < k := by
      show (decide (name < k) || (decide (name = k) && false)) = true ↔ _
      rw [Bool.and_false, Bool.or_false, decide_eq_true_iff]
    have same : AllowListEntry.preserved name = .preserved k ↔ name = k := by
      simp [AllowListEntry.preserved]
    rw [List.map_cons, insert, ih, NameSet.insertList]
    simp only [before, same]
    split
    · rfl
    · split
      · rfl
      · rfl

theorem ofEntries_preserved (names : List String) :
    ofEntries (names.map .preserved) = (NameSet.ofList names).toList.map .preserved := by
  have all : ∀ s : NameSet, (names.map AllowListEntry.preserved).foldl (fun l e => insert e l) (s.toList.map .preserved) =
      (names.foldl NameSet.insert s).toList.map .preserved := by
    induction names with
    | nil => exact fun _ => rfl
    | cons name rest ih =>
      intro s
      rw [List.map_cons, List.foldl_cons, insert_preserved]
      exact ih (s.insert name)
  exact all .empty

def keptNames (index : TypeIndex) (table : ReflectionTable) (addons : Addons) : NameSet :=
  NameSet.ofList ((NameSet.ofList (table.core ++ table.enabledTypes addons)).toList ++ (discovered index table).toList)

theorem mem_keptNames :
    name ∈ keptNames index table addons ↔
      name ∈ table.core ∨ name ∈ table.enabledTypes addons ∨ name ∈ discovered index table := by
  rw [keptNames, NameSet.mem_ofList, List.mem_append, ← NameSet.mem_def, ← NameSet.mem_def, NameSet.mem_ofList,
    List.mem_append, or_assoc]

theorem ofIndex_eq : ofIndex index table addons = (keptNames index table addons).toList.map .preserved :=
  ofEntries_preserved _

theorem names_ofIndex : (ofIndex index table addons).names = (keptNames index table addons).toList := by
  rw [ofIndex_eq, names, List.map_map]
  exact List.map_id' _

theorem mem_names_ofIndex : name ∈ (ofIndex index table addons).names ↔
    name ∈ table.core ∨
    (∃ g types, addons.Enables g ∧ table.groups g = some types ∧ name ∈ types) ∨
    ∃ root ∈ table.closureRoots, name ≠ root ∧ index.Concrete name ∧ TransGen index.Edge name root := by
  rw [names_ofIndex, ← NameSet.mem_def, mem_keptNames, ReflectionTable.mem_enabledTypes, mem_discovered]
  simp only [TypeIndex.mem_concreteSubtypes]

/-- **The allow-list is exact.** It keeps the core types, the types declared by the groups whose addons are on, and the
structures and enumerations from which a chain of edges leads to a closure root other than themselves; it keeps each of
them once, introspectable and instantiable, and nothing else. -/
theorem ofIndex_exact (index : TypeIndex) (table : ReflectionTable) (addons : Addons) :
    (∀ name, name ∈ (ofIndex index table addons).names ↔
      name ∈ table.core ∨
      (∃ g types, addons.Enables g ∧ table.groups g = some types ∧ name ∈ types) ∨
      ∃ root ∈ table.closureRoots, name ≠ root ∧ index.Concrete name ∧ TransGen index.Edge name root) ∧
    (ofIndex index table addons).names.Nodup ∧
    ∀ entry ∈ ofIndex index table addons, entry.introspection = true ∧ entry.instantiation = true := by
  refine ⟨fun name => mem_names_ofIndex, ?_, fun entry h => ?_⟩
  · rw [names_ofIndex]
    exact (keptNames index table addons).ascending.imp String.ne_of_lt
  · rw [ofIndex_eq] at h
    obtain ⟨name, -, rfl⟩ := List.mem_map.1 h
    exact ⟨rfl, rfl⟩

/-! ## The file of an allow-list -/

/-- a text is read as the entries of an allow-list, in order, each with its name and what it keeps -/
def IsWritten (l : AllowList) (content : String) : Prop :=
  Json.parse content = .ok (.array (l.map fun e => .object [
    ("instantiation", .bool e.instantiation), ("introspection", .bool e.introspection), ("name", .string e.name)]))

/-- **An allow-list is read back** from the text of its file. -/
theorem isWritten_fileText (l : AllowList) : l.IsWritten l.fileText := by
  have nests : Json.Nests 127 (.array (l.map AllowListEntry.toJson)) := by
    refine List.forall_mem_map.2 fun e _ => ?_
    unfold AllowListEntry.toJson
    simp [Json.Nests]
  have sorted : ∀ e : AllowListEntry, e.toJson.sorted = .object [
      ("instantiation", .bool e.instantiation), ("introspection", .bool e.introspection), ("name", .string e.name)] := by
    have second : "introspection" < "name" := by decide
    have third : "instantiation" < "introspection" := by decide
    intro e
    simp [AllowListEntry.toJson, Json.sorted, Json.sortedMembers, Json.sortedMember, Json.ofMembers, Json.putMember, second,
      third]
  rw [IsWritten, fileText, Json.parse_pretty nests, Json.sorted, Json.sortedItems_eq, List.map_map]
  exact congrArg _ (congrArg _ (List.map_congr_left fun e _ => sorted e))

/-- types in a cycle below a root: a structure, and a type that is known by its edges alone -/
def cyclicIndex : TypeIndex := TypeIndex.ofFacts [
  ("Loop", { kind := some .struct, supertype := some "Middle" }),
  ("Middle", { interfaces := NameSet.ofList ["Loop", "Root"] }),
  ("Root", { kind := some .trait, supertype := some "Elsewhere" })]

example : (ofIndex cyclicIndex { closureRoots := ["Root", "Elsewhere"] } {}).names = ["Loop"] := by decide +kernel

end AllowList
end ProcessBuild
