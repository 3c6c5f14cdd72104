/-
Use declarations written out. A group is short for a list of use declarations, one for each of its leaves behind the
names that lead to it; a leaf `self` stands for the last of these names. With every declaration written out so, at every
depth of the modules, a file has no groups left and the same index, and each of its modules keeps its scope: the same
imports, of which a later one counts over an earlier one, and the same modules of which everything is imported.
- `imports_leaves`: the imports of a declaration are those of its leaves in order.
- `imports_tree`: the imports of a plain leaf are the same without `self`.
- `SourceFile.index_expanded`: a file with plain leaves tells the same of types when it is written out.
- `ofItems_tree_iff`: no leaf but a plain one is written out with the same imports.
-/
import ProcessBuild.Proofs.TypeIndex.AbsoluteNames

namespace ProcessBuild.Source

/-! ## Leaves -/

/-- a leaf of a use declaration, with the names that lead to it -/
inductive UseLeaf where
  | name (above : List String) (last : String)
  | rename (above : List String) (last newName : String)
  | everything (above : List String)
  deriving DecidableEq, Repr

mutual

/-- the leaves of a use declaration in order -/
def UseTree.leaves (above : List String) : UseTree → List UseLeaf
  | .path first tree => tree.leaves (above ++ [first])
  | .name last => [.name above last]
  | .rename last newName => [.rename above last newName]
  | .glob => [.everything above]
  | .group trees => UseTree.leavesOfAll above trees

/-- the leaves of several branches of a use declaration -/
def UseTree.leavesOfAll (above : List String) : List UseTree → List UseLeaf
  | [] => []
  | tree :: rest => tree.leaves above ++ UseTree.leavesOfAll above rest

end

namespace UseTree

/-- names that lead to a leaf with a name of its own; the name `self` stands for the last of them -/
def lead (leaf : String → UseTree) : List String → String → UseTree
  | [], last => leaf last
  | [module], "self" => leaf module
  | first :: rest, last => .path first (lead leaf rest last)

/-- whether a declaration has no groups, and so one leaf -/
def isSingle : UseTree → Bool
  | .path _ tree => tree.isSingle
  | .group _ => false
  | _ => true

end UseTree

namespace UseLeaf

/-- the declaration that has the leaf only, without a `self` that stands for the name before it -/
def tree : UseLeaf → UseTree
  | .name above last => .lead .name above last
  | .rename above last newName => .lead (.rename · newName) above last
  | .everything above => above.foldr .path .glob

/-- the declaration that has the leaf only, as it was written -/
def written : UseLeaf → UseTree
  | .name above last => above.foldr .path (.name last)
  | .rename above last newName => above.foldr .path (.rename last newName)
  | .everything above => above.foldr .path .glob

/-- a `self` that stands for the name before it is not renamed, and this name is another one -/
def IsPlain : UseLeaf → Prop
  | .name above last => last = "self" → above.getLast? ≠ some "self"
  | .rename above last _ => last = "self" → above = []
  | .everything _ => True

instance : DecidablePred IsPlain
  | .name above last => inferInstanceAs (Decidable (last = "self" → above.getLast? ≠ some "self"))
  | .rename above last _ => inferInstanceAs (Decidable (last = "self" → above = []))
  | .everything _ => .isTrue trivial

end UseLeaf

theorem imports_foldr_path (root above : List String) (tree : UseTree) :
    (above.foldr UseTree.path tree).imports root = tree.imports (root ++ above) := by
  induction above generalizing root with
  | nil => simp
  | cons first above ih => simp [UseTree.imports, ih]

mutual

/-- **The imports of a declaration** are those of its leaves in order. -/
theorem imports_leaves (root above : List String) (tree : UseTree) :
    tree.imports (root ++ above) = (tree.leaves above).flatMap fun l => l.written.imports root := by
  match tree with
  | .path first tree =>
    rw [UseTree.imports, UseTree.leaves, List.append_assoc]
    exact imports_leaves root (above ++ [first]) tree
  | .name last => simp [UseTree.leaves, UseLeaf.written, imports_foldr_path]
  | .rename last newName => simp [UseTree.leaves, UseLeaf.written, imports_foldr_path]
  | .glob => simp [UseTree.leaves, UseLeaf.written, imports_foldr_path]
  | .group trees =>
    rw [UseTree.imports, UseTree.leaves]
    exact importsOfAll_leaves root above trees

theorem importsOfAll_leaves (root above : List String) (trees : List UseTree) :
    UseTree.importsOfAll (root ++ above) trees =
      (UseTree.leavesOfAll above trees).flatMap fun l => l.written.imports root := by
  match trees with
  | [] => rfl
  | tree :: rest =>
    rw [UseTree.importsOfAll, UseTree.leavesOfAll, List.flatMap_append, imports_leaves root above tree,
      importsOfAll_leaves root above rest]

end

theorem imports_lead (leaf : String → UseTree) {above : List String} {last : String}
    (apart : last = "self" → above = []) (root : List String) :
    (UseTree.lead leaf above last).imports root = (leaf last).imports (root ++ above) := by
  induction above generalizing root with
  | nil => simp [UseTree.lead]
  | cons first above ih =>
    have other : last ≠ "self" := fun same => by simpa using apart same
    have next : UseTree.lead leaf (first :: above) last = .path first (UseTree.lead leaf above last) := by
      rw [UseTree.lead]
      simp [other]
    rw [next, UseTree.imports, ih fun same => absurd same other]
    simp

theorem imports_lead_self (leaf : String → UseTree) (above : List String) (module : String) (root : List String) :
    (UseTree.lead leaf (above ++ [module]) "self").imports root = (leaf module).imports (root ++ above) := by
  induction above generalizing root with
  | nil => simp [UseTree.lead]
  | cons first above ih =>
    have next : UseTree.lead leaf (first :: above ++ [module]) "self" =
        .path first (UseTree.lead leaf (above ++ [module]) "self") := by
      rw [List.cons_append, UseTree.lead]
      simp
    rw [next, UseTree.imports, ih]
    simp

/-- **The imports of a plain leaf** are the same without `self`. -/
theorem imports_tree {l : UseLeaf} (plain : l.IsPlain) (root : List String) :
    l.tree.imports root = l.written.imports root := by
  cases l with
  | name above last =>
    rw [UseLeaf.written, imports_foldr_path]
    by_cases behind : last = "self" ∧ above ≠ []
    · obtain ⟨rfl, filled⟩ := behind
      obtain ⟨init, module, rfl⟩ := (List.eq_nil_or_concat' above).resolve_left filled
      have other : module ≠ "self" := by simpa [UseLeaf.IsPlain] using plain
      rw [UseLeaf.tree, imports_lead_self]
      simp [UseTree.imports, other]
    · exact imports_lead .name (fun isSelf => by simpa [isSelf] using behind) root
  | rename above last newName =>
    rw [UseLeaf.written, imports_foldr_path]
    exact imports_lead (.rename · newName) plain root
  | everything above => rfl

/-! ## Items -/

def Item.leaves : Item → List UseLeaf
  | .use _ tree => tree.leaves []
  | _ => []

mutual

/-- an item with every use declaration in its place as a declaration of each of its leaves, at every depth -/
def Item.expanded : Item → List Item
  | .use absolute tree => (tree.leaves []).map fun l => .use absolute l.tree
  | .module name items => [.module name (expandedAll items)]
  | item => [item]

/-- items with every use declaration among them as a declaration of each of its leaves, at every depth -/
def expandedAll : List Item → List Item
  | [] => []
  | item :: rest => item.expanded ++ expandedAll rest

end

/-- whether an item is no use declaration with groups -/
def Item.isSingle : Item → Bool
  | .use _ tree => tree.isSingle
  | _ => true

theorem expandedAll_eq (items : List Item) : expandedAll items = items.flatMap Item.expanded := by
  induction items with
  | nil => rw [expandedAll, List.flatMap_nil]
  | cons item items ih => rw [expandedAll, ih, List.flatMap_cons]

theorem isSingle_lead {leaf : String → UseTree} (single : ∀ w, (leaf w).isSingle = true) (above : List String)
    (last : String) : (UseTree.lead leaf above last).isSingle = true := by
  fun_induction UseTree.lead leaf above last with
  | case1 last => exact single last
  | case2 module => exact single module
  | case3 first rest last _ ih => simpa [UseTree.isSingle] using ih

theorem isSingle_tree (l : UseLeaf) : l.tree.isSingle = true := by
  cases l with
  | name above last => exact isSingle_lead (fun _ => rfl) above last
  | rename above last newName => exact isSingle_lead (fun _ => rfl) above last
  | everything above =>
    rw [UseLeaf.tree]
    induction above with
    | nil => rfl
    | cons first above ih => simpa [UseTree.isSingle] using ih

theorem withinAll_append (items others : List Item) : withinAll (items ++ others) = withinAll items ++ withinAll others := by
  induction items with
  | nil => rfl
  | cons item items ih => simp [withinAll, ih]

mutual

theorem isSingle_expanded (item : Item) : ∀ i ∈ withinAll item.expanded, i.isSingle = true := by
  match item with
  | .use absolute tree =>
    rw [Item.expanded]
    induction tree.leaves [] with
    | nil => simp [withinAll]
    | cons l leaves ih =>
      simp only [List.map_cons, withinAll, Item.within, List.cons_append, List.nil_append, List.forall_mem_cons]
      exact ⟨isSingle_tree l, ih⟩
  | .module name items =>
    simp only [Item.expanded, withinAll, Item.within, List.append_nil, List.forall_mem_cons]
    exact ⟨rfl, isSingle_expandedAll items⟩
  | .struct _ | .enum _ | .trait _ _ | .impl _ | .other =>
    simp [Item.expanded, withinAll, Item.within, Item.isSingle]

/-- **Expanded items** have no use declaration with groups, at any depth. -/
theorem isSingle_expandedAll (items : List Item) : ∀ i ∈ withinAll (expandedAll items), i.isSingle = true := by
  match items with
  | [] => simp [expandedAll, withinAll]
  | item :: rest =>
    rw [expandedAll, withinAll_append]
    exact List.forall_mem_append.2 ⟨isSingle_expanded item, isSingle_expandedAll rest⟩

end

/-! ## Scopes -/

section Scopes

variable {crateName modulePath : String} {items : List Item} {item : Item}

theorem imports_expanded (plain : ∀ l ∈ item.leaves, l.IsPlain) :
    item.expanded.flatMap Item.imports = item.imports := by
  cases item with
  | use absolute tree =>
    have root := imports_leaves (if absolute then [""] else []) [] tree
    rw [List.append_nil] at root
    rw [Item.expanded, Item.imports, root, List.flatMap_map]
    exact List.flatMap_congr fun l isLeaf => imports_tree (plain l isLeaf) _
  | _ => simp [Item.expanded, Item.imports]

theorem declares_expanded (item : Item) : item.expanded.filterMap Item.declares? = item.declares?.toList := by
  cases item with
  | use absolute tree =>
    rw [Item.expanded]
    simp [Item.declares?]
  | _ => simp [Item.expanded, Item.declares?]

/-- **The scope of a module** is the same for its expanded items. -/
theorem ofItems_expandedAll (plain : ∀ item ∈ items, ∀ l ∈ item.leaves, l.IsPlain) :
    Scope.ofItems crateName modulePath (expandedAll items) = Scope.ofItems crateName modulePath items := by
  rw [expandedAll_eq]
  apply Scope.ofItems_congr
  · intro name
    rw [List.filterMap_flatMap, List.flatMap_congr fun item _ => declares_expanded item]
    simp [List.mem_flatMap, List.mem_filterMap]
  · rw [List.flatMap_assoc]
    exact List.flatMap_congr fun item isItem => imports_expanded (plain item isItem)

/-- expanded modules are found where the modules were -/
theorem inside_expandedAll {last : List Item} {names : List String} (inside : Inside items names last) :
    Inside (expandedAll items) names (expandedAll last) := by
  induction inside with
  | here items => exact .here _
  | @module items inner last name names isModule _ ih =>
    refine .module ?_ ih
    rw [expandedAll_eq]
    exact List.mem_flatMap.2 ⟨_, isModule, by simp [Item.expanded]⟩

mutual

theorem facts_expanded (scope : Scope) (item : Item) (plain : ∀ i ∈ item.within, ∀ l ∈ i.leaves, l.IsPlain) :
    factsOfAll scope item.expanded = item.facts scope := by
  match item with
  | .use absolute tree =>
    rw [Item.expanded, factsOfAll_eq, List.flatMap_map]
    simp [Item.facts]
  | .module name items =>
    have inside : ∀ i ∈ withinAll items, ∀ l ∈ i.leaves, l.IsPlain := fun i isInside =>
      plain i (by rw [Item.within]; exact List.mem_cons_of_mem _ isInside)
    rw [Item.expanded, factsOfAll_eq, List.flatMap_singleton, Item.facts, Item.facts,
      ofItems_expandedAll fun i isItem => inside i (within_subset isItem (mem_within i))]
    exact facts_expandedAll _ items inside
  | .struct _ | .enum _ | .trait _ _ | .impl _ | .other => simp [Item.expanded, factsOfAll]

/-- **Expanded items** tell the same of types. -/
theorem facts_expandedAll (scope : Scope) (items : List Item)
    (plain : ∀ i ∈ withinAll items, ∀ l ∈ i.leaves, l.IsPlain) :
    factsOfAll scope (expandedAll items) = factsOfAll scope items := by
  match items with
  | [] => rw [expandedAll]
  | item :: rest =>
    obtain ⟨first, others⟩ := List.forall_mem_append.1 plain
    rw [expandedAll, factsOfAll_append, factsOfAll, facts_expanded scope item first, facts_expandedAll scope rest others]

end

end Scopes

namespace SourceFile

/-- a file with every use declaration in its place as a declaration of each of its leaves -/
def expanded (f : SourceFile) : SourceFile := { f with items := expandedAll f.items }

/-- **Groups of use declarations mean what they are short for.** A file whose use declarations are written out, leaf by
leaf, has no groups left. Each module of the file is in it as well, with its items written out and the scope that it had,
and its index is the same. -/
theorem index_expanded (f : SourceFile) (plain : ∀ item ∈ withinAll f.items, ∀ l ∈ item.leaves, l.IsPlain) :
    (∀ item ∈ withinAll f.expanded.items, item.isSingle = true) ∧
    (∀ names last, Inside f.items names last →
      Inside f.expanded.items names (expandedAll last) ∧ f.expanded.scope names (expandedAll last) = f.scope names last) ∧
    f.expanded.index = f.index := by
  refine ⟨isSingle_expandedAll f.items, fun names last inside => ⟨inside_expandedAll inside, ?_⟩, ?_⟩
  · exact ofItems_expandedAll fun item isItem => plain item (mem_withinAll inside isItem)
  · have top : ∀ item ∈ f.items, ∀ l ∈ item.leaves, l.IsPlain := fun item isItem =>
      plain item (mem_withinAll (.here _) isItem)
    show TypeIndex.ofFacts (factsOfAll (.ofItems _ _ (expandedAll f.items)) (expandedAll f.items)) = _
    rw [ofItems_expandedAll top, facts_expandedAll _ _ plain]
    rfl

/-- a file whose groups hold groups, with `self`, other names, everything in a module and words that lead up; later
imports of `Told` and `rt` count over earlier ones -/
def layeredUses : SourceFile := ⟨"app", "app::orders", [
  .use true (.path "rt" (.group [.name "self", .path "event" (.group [.name "Told", .rename "Heard" "Seen"]), .glob])),
  .struct "Order",
  .use false (.path "super" (.group [
    .path "shared" (.group [.name "self", .group [.rename "Tracked" "Told"]]), .rename "base" "rt", .glob])),
  .impl ⟨false, ⟨false, ["Told"]⟩, some ⟨false, ["Order"]⟩, []⟩,
  .impl ⟨false, ⟨false, ["Seen"]⟩, some ⟨false, ["Order"]⟩, []⟩,
  .impl ⟨false, ⟨false, ["rt", "Based"]⟩, some ⟨false, ["Order"]⟩, []⟩,
  .impl ⟨false, ⟨false, ["shared", "Kept"]⟩, some ⟨false, ["Order"]⟩, []⟩,
  .impl ⟨false, ⟨false, ["Unknown"]⟩, some ⟨false, ["Order"]⟩, []⟩,
  .module "inner" [
    .use false (.group [.path "super" (.group [.name "Order", .name "self"])]),
    .impl ⟨false, ⟨false, ["Held"]⟩, some ⟨false, ["Order"]⟩, []⟩]]⟩

theorem layeredUses_expanded :
    (∀ item ∈ withinAll layeredUses.items, ∀ l ∈ item.leaves, l.IsPlain) ∧
    layeredUses.expanded.index.types.entries = [
      ("app::orders::Order", {
        kind := some .struct
        interfaces := NameSet.ofList [
          "app::base::Based", "app::orders::inner::Held", "app::shared::Kept", "app::shared::Tracked", "rt::Unknown",
          "rt::event::Heard"] })] ∧
    (∀ item ∈ withinAll layeredUses.expanded.items, item.isSingle = true) ∧
    (∀ names last, Inside layeredUses.items names last →
      Inside layeredUses.expanded.items names (expandedAll last) ∧
        layeredUses.expanded.scope names (expandedAll last) = layeredUses.scope names last) ∧
    layeredUses.expanded.index = layeredUses.index := by
  have plain : ∀ item ∈ withinAll layeredUses.items, ∀ l ∈ item.leaves, l.IsPlain := by decide +kernel
  exact ⟨plain, by decide +kernel, layeredUses.index_expanded plain⟩

end SourceFile

/-! ## Leaves that are not plain -/

theorem joinSegments_append {segments : List String} (filled : segments ≠ []) (last : String) :
    joinSegments (segments ++ [last]) = joinSegments segments ++ "::" ++ last := by
  obtain ⟨first, rest, rfl⟩ := List.exists_cons_of_ne_nil filled
  rw [List.cons_append, joinSegments_cons, joinSegments_cons, nameBelow, nameBelow, List.foldl_append]
  rfl

theorem joinSegments_self_ne (segments : List String) : joinSegments (segments ++ ["self"]) ≠ joinSegments segments := by
  intro same
  by_cases empty : segments = []
  · subst empty
    exact absurd same (by decide)
  · rw [joinSegments_append empty] at same
    have sizes := congrArg String.length same
    have ofWord : "self".length = 4 := by decide
    simp only [String.length_append] at sizes
    omega

/-- the word `self` behind other names stays in a full name -/
theorem Scope.absolute_self_ne (s : Scope) {segments : List String} (filled : segments ≠ []) :
    s.absolute (segments ++ ["self"]) ≠ s.absolute segments := by
  obtain ⟨first, rest, rfl⟩ := List.exists_cons_of_ne_nil filled
  rw [List.cons_append, absolute, absolute]
  split_ifs
  · exact joinSegments_self_ne rest
  · exact joinSegments_self_ne (_ :: rest)
  · exact joinSegments_self_ne (_ :: rest)
  · exact joinSegments_self_ne (_ :: rest)
  · exact joinSegments_self_ne (_ :: rest)

section Single

variable {crateName modulePath : String}

/-- what imports stand for in a module that has no others -/
def importsAlone (crateName modulePath : String) (imports : List Import) : NameMap String :=
  (imports.foldl Scope.addImport (.empty crateName modulePath)).imports

theorem imports_ofUse (absolute : Bool) (tree : UseTree) :
    (Scope.ofItems crateName modulePath [.use absolute tree]).imports =
      importsAlone crateName modulePath (tree.imports (if absolute then [""] else [])) := rfl

/-- what a `self` below names is imported as: the last of these names, for all of them -/
theorem get?_importSelf {names : List String} {name full : String}
    (known : (importsAlone crateName modulePath ((UseTree.name "self").imports names)).get? name = some full) :
    names ≠ [] ∧ full = (Scope.empty crateName modulePath).absolute names := by
  rw [importsAlone, UseTree.imports, if_pos rfl] at known
  cases last : names.getLast? with
  | none =>
    rw [last] at known
    cases known
  | some module =>
    have filled : names ≠ [] := by
      rintro rfl
      cases last
    simp only [last, Option.toList_some, List.map_cons, List.map_nil, List.foldl_cons, List.foldl_nil, Scope.addImport,
      NameMap.get?_insert] at known
    split at known
    · exact ⟨filled, (Option.some.inj known).symm⟩
    · cases known

/-- a `self` below a `self` makes this word a name in use, which a single one at its place does not -/
theorem importSelf_ne (names : List String) : importsAlone crateName modulePath ((UseTree.name "self").imports names) ≠
    importsAlone crateName modulePath ((UseTree.name "self").imports (names ++ ["self"])) := by
  intro same
  obtain ⟨full, known⟩ : ∃ full, (importsAlone crateName modulePath
      ((UseTree.name "self").imports (names ++ ["self"]))).get? "self" = some full := by
    simp [importsAlone, UseTree.imports, Scope.addImport, NameMap.get?_insert]
  have longer := (get?_importSelf known).2
  rw [← same] at known
  obtain ⟨filled, shorter⟩ := get?_importSelf known
  exact Scope.absolute_self_ne _ filled (longer.symm.trans shorter)

/-- a renamed `self` stands for a full name that ends in this word -/
theorem importRenamed_ne (names : List String) (module newName : String) :
    importsAlone crateName modulePath ((UseTree.rename module newName).imports names) ≠
      importsAlone crateName modulePath ((UseTree.rename "self" newName).imports (names ++ [module])) := by
  intro same
  have stands := congrArg (NameMap.get? · newName) same
  simp only [importsAlone, UseTree.imports, Scope.addImport, List.foldl_cons, List.foldl_nil, NameMap.get?_insert,
    if_true, Option.some.injEq] at stands
  exact Scope.absolute_self_ne _ (by simp) stands.symm

end Single

/-- **A leaf that is not plain** is written out as a declaration with other imports: the full name behind a renamed `self`
ends in this word, and a `self` behind a `self` brings this word into use as a name. -/
theorem ofItems_tree_iff (crateName modulePath : String) (absolute : Bool) (l : UseLeaf) :
    Scope.ofItems crateName modulePath [.use absolute l.tree] =
      Scope.ofItems crateName modulePath [.use absolute l.written] ↔ l.IsPlain := by
  constructor
  · intro same
    -- where a leaf is not plain, both import one name, and for paths that differ by a last self
    have imported := congrArg Scope.imports same
    rw [imports_ofUse, imports_ofUse] at imported
    by_contra notPlain
    cases l with
    | everything above => exact notPlain trivial
    | name above last =>
      simp only [UseLeaf.IsPlain, Classical.not_imp, not_not] at notPlain
      obtain ⟨rfl, isSelf⟩ := notPlain
      obtain ⟨init, rfl⟩ := List.getLast?_eq_some_iff.1 isSelf
      rw [UseLeaf.tree, imports_lead_self, UseLeaf.written, imports_foldr_path, ← List.append_assoc] at imported
      exact importSelf_ne _ imported
    | rename above last newName =>
      simp only [UseLeaf.IsPlain, Classical.not_imp] at notPlain
      obtain ⟨rfl, filled⟩ := notPlain
      obtain ⟨init, module, rfl⟩ := (List.eq_nil_or_concat' above).resolve_left filled
      rw [UseLeaf.tree, imports_lead_self, UseLeaf.written, imports_foldr_path, ← List.append_assoc] at imported
      exact importRenamed_ne _ module newName imported
  · intro plain
    unfold Scope.ofItems
    simp only [List.foldl_cons, List.foldl_nil, Scope.addItem]
    rw [imports_tree plain]

/-- a renamed `self` in braces, and the declaration that it is short for -/
example :
    let standsFor (tree : UseTree) := (Scope.ofItems "app" "app::orders" [.use false tree]).imports.get? "runtime"
    standsFor (.path "rt" (.group [.rename "self" "runtime"])) = some "rt::self" ∧
      standsFor (.rename "rt" "runtime") = some "rt" := by
  decide +kernel

end ProcessBuild.Source
