/-
Relative words in full names. The words `crate`, `self` and `super` name a module by where it is; a full name has none
of them. What a path stands for starts with the full name that its first word stands for, and goes on with its other
words as they are: so a path stands for a full name exactly when none of its words but the first is relative.
- `isAbsoluteName_resolve_iff`: which paths stand for full names, in a scope whose imports do.
- `SourceFile.isAbsolute_scope`: the imports of a module stand for full names if relative words come first in them.
- `SourceFile.index_absolute`: the types, the supertypes and the interfaces of the index of a file are full names.
-/
import ProcessBuild.Proofs.Files.Places
import ProcessBuild.Proofs.TypeIndex.FileIndex

namespace ProcessBuild.Source

/-! ## Full names -/

/-- the words that name a module by where it is -/
def relativeWords : List String := ["crate", "self", "super"]

/-- no segment of a name is a relative word; what stands between the two colons of a separator is empty and no word -/
def IsAbsoluteName (name : String) : Prop := ∀ piece ∈ Text.pieces ':' name.toList, String.ofList piece ∉ relativeWords

instance (name : String) : Decidable (IsAbsoluteName name) :=
  inferInstanceAs (Decidable (∀ piece ∈ Text.pieces ':' name.toList, String.ofList piece ∉ relativeWords))

@[simp] theorem isAbsoluteName_append {a b : String} :
    IsAbsoluteName (a ++ "::" ++ b) ↔ IsAbsoluteName a ∧ IsAbsoluteName b := by
  have spelled : (a ++ "::" ++ b).toList = a.toList ++ ':' :: ([] ++ ':' :: b.toList) := by simp
  have empty : String.ofList [] ∉ relativeWords := by decide
  unfold IsAbsoluteName
  rw [spelled, Text.pieces_append, Text.pieces_append]
  simp [Text.pieces, or_imp, forall_and, empty]

theorem isAbsoluteName_joinSegments {segments : List String} :
    IsAbsoluteName (joinSegments segments) ↔ ∀ w ∈ segments, IsAbsoluteName w := by
  cases segments with
  | nil => exact ⟨fun _ => List.forall_mem_nil _, fun _ => by decide⟩
  | cons first rest =>
    rw [joinSegments_cons]
    induction rest generalizing first with
    | nil => exact List.forall_mem_singleton.symm
    | cons next rest ih =>
      show IsAbsoluteName (nameBelow (first ++ "::" ++ next) rest) ↔ _
      rw [ih]
      simp [and_assoc]

theorem isAbsoluteName_nameBelow {modulePath : String} {names : List String} :
    IsAbsoluteName (nameBelow modulePath names) ↔ IsAbsoluteName modulePath ∧ ∀ w ∈ names, IsAbsoluteName w := by
  rw [← joinSegments_cons, isAbsoluteName_joinSegments, List.forall_mem_cons]

theorem eq_of_beforeLastSeparator {s before : List Char} (h : beforeLastSeparator s = some before) :
    ∃ after, s = before ++ ':' :: ':' :: after := by
  induction s generalizing before with
  | nil => cases h
  | cons c r ih =>
    rw [beforeLastSeparator] at h
    split at h
    · rename_i inner found
      obtain rfl := Option.some.inj h
      obtain ⟨after, rfl⟩ := ih found
      exact ⟨after, rfl⟩
    · split at h
      · rename_i colons
        obtain rfl := Option.some.inj h
        obtain ⟨rfl, next⟩ := colons
        obtain ⟨rest, rfl⟩ := List.head?_eq_some_iff.1 next
        exact ⟨rest, rfl⟩
      · cases h

/-! ## Paths -/

/-- relative words come only first among the words of a path -/
def RelativeAtFront : List String → Prop
  | [] => True
  | first :: rest => (IsAbsoluteName first ∨ first ∈ relativeWords) ∧ ∀ w ∈ rest, IsAbsoluteName w

instance (words : List String) : Decidable (RelativeAtFront words) :=
  match words with
  | [] => .isTrue trivial
  | first :: rest =>
    inferInstanceAs (Decidable ((IsAbsoluteName first ∨ first ∈ relativeWords) ∧ ∀ w ∈ rest, IsAbsoluteName w))

/-- the words of a path; an empty word stands for the root at the front of an absolute path -/
def Path.words (p : Path) : List String := if p.absolute then "" :: p.segments else p.segments

def Import.words : Import → List String
  | .name _ segments => segments
  | .everything segments => segments

namespace Scope

/-- the names that paths are resolved to in a module are full ones -/
structure IsAbsolute (s : Scope) : Prop where
  crateName : IsAbsoluteName s.crateName
  modulePath : IsAbsoluteName s.modulePath
  imports : ∀ name full, s.imports.get? name = some full → IsAbsoluteName full
  globs : ∀ glob ∈ s.globs, IsAbsoluteName glob

variable {s : Scope} {first : String} {rest : List String}

theorem IsAbsolute.parent (h : s.IsAbsolute) : IsAbsoluteName s.parent := by
  unfold Scope.parent
  split
  · rename_i before found
    obtain ⟨after, spelled⟩ := eq_of_beforeLastSeparator found
    have joined : s.modulePath = String.ofList before ++ "::" ++ String.ofList after := by
      rw [← String.toList_inj, spelled]
      simp
    have module := h.modulePath
    rw [joined, isAbsoluteName_append] at module
    exact module.1
  · exact h.crateName

/-- **The words of a use declaration** stand for a full name when none of them but the first is relative. -/
theorem isAbsoluteName_absolute_iff (h : s.IsAbsolute) (front : IsAbsoluteName first ∨ first ∈ relativeWords) :
    IsAbsoluteName (s.absolute (first :: rest)) ↔ ∀ w ∈ rest, IsAbsoluteName w := by
  have started : ∀ {start : String}, IsAbsoluteName start →
      (IsAbsoluteName (joinSegments (start :: rest)) ↔ ∀ w ∈ rest, IsAbsoluteName w) := by
    intro start isAbsolute
    rw [isAbsoluteName_joinSegments, List.forall_mem_cons]
    exact and_iff_right isAbsolute
  rw [absolute]
  split
  · exact isAbsoluteName_joinSegments
  split
  · exact started h.crateName
  split
  · exact started h.modulePath
  split
  · exact started h.parent
  · rename_i crate self super
    exact started (front.resolve_right (by simp [relativeWords, crate, self, super]))

theorem isAbsoluteName_absolute (h : s.IsAbsolute) {words : List String} (front : RelativeAtFront words) :
    IsAbsoluteName (s.absolute words) := by
  cases words with
  | nil => exact (by decide : IsAbsoluteName "")
  | cons first rest => exact (isAbsoluteName_absolute_iff h front.1).2 front.2

/-- the first word of a path stands for a full name -/
theorem isAbsoluteName_resolveFirst (h : s.IsAbsolute) (alone : Bool)
    (front : IsAbsoluteName first ∨ first ∈ relativeWords) : IsAbsoluteName (s.resolveFirst alone first) := by
  unfold resolveFirst
  split
  · exact (isAbsoluteName_absolute_iff h front).2 (List.forall_mem_nil _)
  · rename_i notRelative
    have isAbsolute : IsAbsoluteName first := front.resolve_right (by simpa [relativeWords] using notRelative)
    split
    · exact isAbsoluteName_append.2 ⟨h.modulePath, isAbsolute⟩
    · split
      · rename_i imported
        exact h.imports first _ imported
      · split
        · split
          · rename_i glob _ globs
            exact isAbsoluteName_append.2 ⟨h.globs glob (globs ▸ List.mem_cons_self), isAbsolute⟩
          · exact isAbsoluteName_append.2 ⟨h.modulePath, isAbsolute⟩
        · exact isAbsolute

/-- **A path** stands for a full name exactly when none of its words but the first is relative, and that one only if no
separator comes before it. -/
theorem isAbsoluteName_resolve_iff (h : s.IsAbsolute) {p : Path}
    (words : ∀ w ∈ p.segments, IsAbsoluteName w ∨ w ∈ relativeWords) :
    IsAbsoluteName (s.resolve p) ↔ RelativeAtFront p.words := by
  obtain ⟨isRooted, segments⟩ := p
  cases segments with
  | nil =>
    have nothing : IsAbsoluteName "" := by decide
    cases isRooted with
    | false => exact ⟨fun _ => trivial, fun _ => nothing⟩
    | true => exact ⟨fun _ => ⟨.inl nothing, List.forall_mem_nil _⟩, fun _ => nothing⟩
  | cons first rest =>
    have front := words first List.mem_cons_self
    cases isRooted with
    | false =>
      show IsAbsoluteName (joinSegments (s.resolveFirst rest.isEmpty first :: rest)) ↔
        (IsAbsoluteName first ∨ first ∈ relativeWords) ∧ ∀ w ∈ rest, IsAbsoluteName w
      rw [isAbsoluteName_joinSegments, List.forall_mem_cons]
      exact and_congr_left fun _ => iff_of_true (isAbsoluteName_resolveFirst h _ front) front
    | true =>
      show IsAbsoluteName (joinSegments (first :: rest)) ↔
        (IsAbsoluteName "" ∨ "" ∈ relativeWords) ∧ ∀ w ∈ first :: rest, IsAbsoluteName w
      rw [isAbsoluteName_joinSegments]
      exact (and_iff_right (.inl (by decide))).symm

theorem isAbsoluteName_resolve (h : s.IsAbsolute) {p : Path} (front : RelativeAtFront p.words) :
    IsAbsoluteName (s.resolve p) := by
  refine (isAbsoluteName_resolve_iff h ?_).2 front
  obtain ⟨isRooted, segments⟩ := p
  cases isRooted with
  | true => exact fun w isWord => .inl (front.2 w isWord)
  | false =>
    cases segments with
    | nil => exact List.forall_mem_nil _
    | cons first rest => exact List.forall_mem_cons.2 ⟨front.1, fun w isWord => .inl (front.2 w isWord)⟩

/-- an import of which relative words come first keeps the names of a scope full -/
theorem IsAbsolute.addImport (h : s.IsAbsolute) {i : Import} (front : RelativeAtFront i.words) :
    (s.addImport i).IsAbsolute := by
  have named := isAbsoluteName_absolute h front
  cases i with
  | name as segments =>
    refine ⟨h.crateName, h.modulePath, fun name full imported => ?_, h.globs⟩
    rw [Scope.addImport, NameMap.get?_insert] at imported
    split at imported
    · obtain rfl := Option.some.inj imported
      exact named
    · exact h.imports name full imported
  | everything segments =>
    refine ⟨h.crateName, h.modulePath, h.imports, fun glob isGlob => ?_⟩
    rcases List.mem_append.1 isGlob with old | new
    · exact h.globs glob old
    · obtain rfl := List.mem_singleton.1 new
      exact named

theorem IsAbsolute.addImports {imports : List Import} (front : ∀ i ∈ imports, RelativeAtFront i.words)
    (h : s.IsAbsolute) : (imports.foldl Scope.addImport s).IsAbsolute := by
  induction imports generalizing s with
  | nil => exact h
  | cons i imports ih =>
    exact ih (fun i isImport => front i (List.mem_cons_of_mem _ isImport)) (h.addImport (front i List.mem_cons_self))

/-- **The scope of a module** resolves to full names when relative words come first in its imports. -/
theorem isAbsolute_ofItems {crateName modulePath : String} {items : List Item} (crate : IsAbsoluteName crateName)
    (module : IsAbsoluteName modulePath) (front : ∀ i ∈ items.flatMap Item.imports, RelativeAtFront i.words) :
    (ofItems crateName modulePath items).IsAbsolute := by
  have bare : (empty crateName modulePath).IsAbsolute :=
    ⟨crate, module, fun _ _ imported => (nomatch imported), fun _ isGlob => (nomatch isGlob)⟩
  have imported := bare.addImports front
  obtain ⟨imports, globs⟩ := imports_addItems (empty crateName modulePath) items
  have same := sameModule_addItems (empty crateName modulePath) items
  refine ⟨same.crateName ▸ crate, same.modulePath ▸ module, ?_, ?_⟩
  · rw [ofItems, imports]
    exact imported.imports
  · rw [ofItems, globs]
    exact imported.globs

end Scope

/-! ## Files -/

/-- the name that an item declares in its module, of a type or of a module -/
def Item.name? : Item → Option String
  | .module name _ => some name
  | item => item.declares?

/-- the paths that an item is written with, by their words -/
def Item.paths : Item → List (List String)
  | .trait _ supertraits => supertraits.map Path.words
  | .impl i => (i.trait :: i.type.toList ++ i.targets.filterMap id).map Path.words
  | item => item.imports.map Import.words

mutual

/-- an item and the items in it, at every depth -/
def Item.within : Item → List Item
  | .module name items => .module name items :: withinAll items
  | item => [item]

/-- items and the items in them, at every depth -/
def withinAll : List Item → List Item
  | [] => []
  | item :: rest => item.within ++ withinAll rest

end

theorem mem_within (item : Item) : item ∈ item.within := by
  cases item <;> simp [Item.within]

theorem within_subset {item : Item} {items : List Item} (isItem : item ∈ items) : item.within ⊆ withinAll items := by
  induction items with
  | nil => cases isItem
  | cons first rest ih =>
    rw [withinAll]
    rcases List.mem_cons.1 isItem with rfl | inRest
    · exact List.subset_append_left _ _
    · exact List.Subset.trans (ih inRest) (List.subset_append_right _ _)

theorem mem_withinAll {items last : List Item} {names : List String} {item : Item} (inside : Inside items names last)
    (isItem : item ∈ last) : item ∈ withinAll items := by
  induction inside with
  | here items => exact within_subset isItem (mem_within item)
  | module isModule _ ih =>
    refine within_subset isModule ?_
    rw [Item.within]
    exact List.mem_cons_of_mem _ (ih isItem)

/-- the names of modules on the way to items are names that items declare -/
theorem exists_module_of_inside {items last : List Item} {names : List String} {name : String}
    (inside : Inside items names last) (isName : name ∈ names) : ∃ inner, .module name inner ∈ withinAll items := by
  induction inside with
  | here _ => cases isName
  | @module _ inner _ _ _ isModule _ ih =>
    rcases List.mem_cons.1 isName with rfl | below
    · exact ⟨inner, mem_withinAll (.here _) isModule⟩
    · obtain ⟨deep, isWithin⟩ := ih below
      refine ⟨deep, within_subset isModule ?_⟩
      rw [Item.within]
      exact List.mem_cons_of_mem _ isWithin

theorem words_mem_paths {item : Item} {i : Import} (isImport : i ∈ item.imports) : i.words ∈ item.paths := by
  cases item with
  | trait _ _ => cases isImport
  | impl _ => cases isImport
  | _ => exact List.mem_map_of_mem isImport

namespace SourceFile

/-- how the names and paths of a file are written: the names that its items declare are not relative, and relative words
come only first in paths -/
structure IsPlain (f : SourceFile) : Prop where
  named : ∀ item ∈ withinAll f.items, ∀ name ∈ item.name?, IsAbsoluteName name
  atFront : ∀ item ∈ withinAll f.items, ∀ words ∈ item.paths, RelativeAtFront words

section Plain

variable {f : SourceFile} (plain : f.IsPlain) (crate : IsAbsoluteName f.crateName)
  (module : IsAbsoluteName f.modulePath) {names : List String} {last : List Item} {item : Item} {scope : Scope}
  {p : Path} {name : String}

include plain module in
theorem isAbsoluteName_module (inside : Inside f.items names last) : IsAbsoluteName (nameBelow f.modulePath names) := by
  refine isAbsoluteName_nameBelow.2 ⟨module, fun w isName => ?_⟩
  obtain ⟨inner, isModule⟩ := exists_module_of_inside inside isName
  exact plain.named _ isModule w rfl

include plain module in
theorem isAbsoluteName_declared (inside : Inside f.items names last) (isItem : item ∈ last)
    (declares : item.declares? = some name) : IsAbsoluteName (nameBelow f.modulePath (names ++ [name])) := by
  have named : item.name? = some name := by
    cases item with
    | module _ _ => cases declares
    | _ => exact declares
  have below := isAbsoluteName_nameBelow.1 (isAbsoluteName_module plain module inside)
  refine isAbsoluteName_nameBelow.2 ⟨module, List.forall_mem_append.2 ⟨below.2, List.forall_mem_singleton.2 ?_⟩⟩
  exact plain.named item (mem_withinAll inside isItem) name named

include plain crate module in
/-- **The scopes of the modules of a file** resolve to full names. -/
theorem isAbsolute_scope (inside : Inside f.items names last) : (f.scope names last).IsAbsolute := by
  refine Scope.isAbsolute_ofItems crate (isAbsoluteName_module plain module inside) fun i isImport => ?_
  obtain ⟨item, isItem, imports⟩ := List.mem_flatMap.1 isImport
  exact plain.atFront item (mem_withinAll inside isItem) i.words (words_mem_paths imports)

include plain crate module in
/-- **The paths that the items of a file are written with** stand for full names. -/
theorem isAbsoluteName_written (holds : f.Holds scope item) (written : p.words ∈ item.paths) :
    IsAbsoluteName (scope.resolve p) := by
  obtain ⟨inside, isItem⟩ := holds
  exact Scope.isAbsoluteName_resolve (isAbsolute_scope plain crate module inside)
    (plain.atFront item (mem_withinAll inside isItem) p.words written)

include plain crate module in
theorem isAbsoluteName_implements {i : TraitImpl} (implements : f.Implements scope i name) : IsAbsoluteName name := by
  obtain ⟨holds, -, type, isPath, rfl⟩ := implements
  refine isAbsoluteName_written plain crate module holds (List.mem_map_of_mem ?_)
  simp [isPath]

include plain crate module in
theorem isAbsoluteName_interface {trait : String} (has : f.HasInterface name trait) :
    IsAbsoluteName name ∧ IsAbsoluteName trait := by
  cases has with
  | supertrait inside isItem isSupertrait =>
    exact ⟨isAbsoluteName_declared plain module inside isItem rfl,
      isAbsoluteName_written plain crate module (.intro inside isItem) (List.mem_map_of_mem isSupertrait)⟩
  | implemented implements noDeref =>
    exact ⟨isAbsoluteName_implements plain crate module implements,
      isAbsoluteName_written plain crate module implements.holds (List.mem_map_of_mem List.mem_cons_self)⟩

include plain crate module in
theorem isAbsoluteName_leadsTo {base : String} (leads : f.LeadsTo name base) :
    IsAbsoluteName name ∧ IsAbsoluteName base := by
  cases leads with
  | implemented implements deref isTarget =>
    refine ⟨isAbsoluteName_implements plain crate module implements,
      isAbsoluteName_written plain crate module implements.holds (List.mem_map_of_mem ?_)⟩
    obtain ⟨target, isMember, same⟩ := List.exists_of_findSome?_eq_some isTarget
    obtain rfl : target = some _ := same
    simp [isMember]

end Plain

/-- **The index of a file** holds full names only: the types that it has entries for, their supertypes and their
interfaces. -/
theorem index_absolute {f : SourceFile} (crate : IsAbsoluteName f.crateName) (module : IsAbsoluteName f.modulePath)
    (plain : f.IsPlain) {name : String} {info : TypeInfo} (known : f.index.get? name = some info) :
    IsAbsoluteName name ∧ (∀ base, info.supertype = some base → IsAbsoluteName base) ∧
      ∀ trait ∈ info.interfaces, IsAbsoluteName trait := by
  obtain ⟨-, interfaces, supertype⟩ := entry_exact known
  refine ⟨?_, fun base leads => ?_, fun trait isInterface => ?_⟩
  · rcases exists_entry_iff.1 ⟨info, known⟩ with ⟨kind, declares⟩ | ⟨trait, has⟩ | ⟨base, leads⟩
    · cases declares with
      | struct inside isItem => exact isAbsoluteName_declared plain module inside isItem rfl
      | enum inside isItem => exact isAbsoluteName_declared plain module inside isItem rfl
      | trait inside isItem => exact isAbsoluteName_declared plain module inside isItem rfl
    · exact (isAbsoluteName_interface plain crate module has).1
    · exact (isAbsoluteName_leadsTo plain crate module leads).1
  · exact (isAbsoluteName_leadsTo plain crate module (supertype.eq_some_iff.1 leads).1).2
  · exact (isAbsoluteName_interface plain crate module ((interfaces trait).1 isInterface)).2

/-- a file with every relative word at the front of a path, in uses, bounds, implementations and targets -/
def relativeFile : SourceFile := ⟨"app", "app::orders", [
  .use false (.path "super" (.group [.path "shared" (.group [.name "self", .rename "Told" "Heard"]), .glob])),
  .trait "Audited" [⟨false, ["self", "inner", "State"]⟩, ⟨false, ["shared", "Tracked"]⟩, ⟨false, ["Clone"]⟩],
  .module "inner" [
    .enum "State",
    .use false (.rename "super" "up"),
    .impl ⟨false, ⟨false, ["up", "Audited"]⟩, some ⟨false, ["self", "State"]⟩, []⟩,
    .impl ⟨false, ⟨true, ["std", "ops", "Deref"]⟩, some ⟨false, ["State"]⟩, [some ⟨false, ["crate", "Base"]⟩]⟩]]⟩

theorem relativeFile_absolute :
    IsAbsoluteName relativeFile.crateName ∧ IsAbsoluteName relativeFile.modulePath ∧ relativeFile.IsPlain ∧
    relativeFile.index.types.entries = [
      ("app::orders::Audited", {
        kind := some .trait
        interfaces := NameSet.ofList ["app::Clone", "app::orders::inner::State", "app::shared::Tracked"] }),
      ("app::orders::inner::State", {
        kind := some .enum
        supertype := some "app::Base"
        interfaces := NameSet.ofList ["app::orders::Audited"] })] ∧
    ∀ name info, relativeFile.index.get? name = some info →
      IsAbsoluteName name ∧ (∀ base, info.supertype = some base → IsAbsoluteName base) ∧
        ∀ trait ∈ info.interfaces, IsAbsoluteName trait := by
  have crate : IsAbsoluteName relativeFile.crateName := by decide
  have module : IsAbsoluteName relativeFile.modulePath := by decide
  have plain : relativeFile.IsPlain := ⟨by decide +kernel, by decide +kernel⟩
  exact ⟨crate, module, plain, by decide +kernel, fun name info known => index_absolute crate module plain known⟩

/-- **A relative word after the first** stays in the name that its path stands for. So an implementation of a trait with
such a path gives its type an interface whose name is not full. -/
theorem index_relative {f : SourceFile} {scope : Scope} {i : TraitImpl} {name : String} (isAbsolute : scope.IsAbsolute)
    (implements : f.Implements scope i name) (noDeref : ¬IsDeref (scope.resolve i.trait))
    (words : ∀ w ∈ i.trait.segments, IsAbsoluteName w ∨ w ∈ relativeWords) (late : ¬RelativeAtFront i.trait.words) :
    ∃ info, f.index.get? name = some info ∧ ∃ trait ∈ info.interfaces, ¬IsAbsoluteName trait := by
  have has : f.HasInterface name (scope.resolve i.trait) := .implemented implements noDeref
  obtain ⟨info, known⟩ := exists_entry_iff.2 (.inr (.inl ⟨_, has⟩))
  refine ⟨info, known, _, ((entry_exact known).2.1 _).2 has, ?_⟩
  rw [Scope.isAbsoluteName_resolve_iff isAbsolute words]
  exact late

/-- a trait of the crate that is reached by going up twice, and one of a module that is in use under another name -/
example :
    let told (trait : Path) : Item := .impl ⟨false, trait, some ⟨false, ["State"]⟩, []⟩
    let file : SourceFile := ⟨"app", "app::orders", [
      .module "inner" [
        .enum "State",
        .use false (.path "rt" (.group [.rename "self" "runtime"])),
        told ⟨false, ["super", "super", "Told"]⟩,
        told ⟨false, ["runtime", "Heard"]⟩]]⟩
    file.index.types.entries = [
      ("app::orders::inner::State", {
        kind := some .enum
        interfaces := NameSet.ofList ["app::orders::super::Told", "rt::self::Heard"] })] := by
  decide +kernel

end SourceFile
end ProcessBuild.Source
