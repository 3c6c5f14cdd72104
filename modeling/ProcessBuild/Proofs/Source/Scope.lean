/-
What names stand for in a module. A name on its own is a type of the module if the module declares one, otherwise what
is imported under the name, otherwise a type of the first module of which everything is imported.
- `resolve_declared`, `resolve_imported`, `resolve_everything`: the three places that a name is looked up in.
-/
import ProcessBuild.Proofs.Source.Identifiers
import ProcessBuild.Source.Scope

namespace ProcessBuild.Source

/-! ## Places -/

/-- whether a name on its own can be a type: it names none of the places that paths start from -/
def namesType (name : String) : Bool := !(["", "crate", "self", "super"].contains name)

theorem namesType_of_isName {w : String} (name : IsName w.toList) (elsewhere : w ∉ ["crate", "self", "super"]) :
    namesType w = true := by
  unfold namesType
  rw [Bool.not_eq_true', List.contains_eq_mem, decide_eq_false_iff_not]
  intro isPlace
  rcases List.mem_cons.1 isPlace with rfl | isPlace
  · obtain ⟨c, rest, spelled, -⟩ := name.front
    cases spelled
  · exact elsewhere isPlace

theorem namesType_of_identifier {w : String} (h : Identifier w) : namesType w = true := by
  have places : ∀ p ∈ ["crate", "self", "super"], isFreeWord p = false := by decide
  refine namesType_of_isName h.name fun isPlace => ?_
  have no := places w isPlace
  rw [h.free] at no
  cases no

theorem namesType_ne {name : String} (h : namesType name = true) :
    name ≠ "" ∧ name ≠ "crate" ∧ name ≠ "self" ∧ name ≠ "super" := by
  unfold namesType at h
  rw [Bool.not_eq_true', List.contains_eq_mem, decide_eq_false_iff_not] at h
  simpa only [List.mem_cons, List.not_mem_nil, or_false, not_or] using h

/-! ## Items of a scope -/

/-- the type that an item declares in its module -/
def Item.declares? : Item → Option String
  | .struct name => some name
  | .enum name => some name
  | .trait name _ => some name
  | _ => none

def Item.imports : Item → List Import
  | .use absolute tree => tree.imports (if absolute then [""] else [])
  | _ => []

/-- a group of names brings in each of them -/
theorem importsOfAll_names (above : List String) {names : List String} (h : "self" ∉ names) :
    UseTree.importsOfAll above (names.map .name) = names.map fun n => .name n (above ++ [n]) := by
  induction names with
  | nil => rfl
  | cons n names ih =>
    obtain ⟨first, rest⟩ := not_or.1 (fun e => h (List.mem_cons.2 e))
    rw [List.map_cons, UseTree.importsOfAll, ih rest, UseTree.imports, if_neg (Ne.symm first)]
    rfl

/-- the module of which an import brings in everything -/
def Import.everything? : Import → Option (List String)
  | .everything segments => some segments
  | .name _ _ => none

namespace Scope

/-- the parts of a scope that stay as they are when a declaration is taken in -/
structure SameModule (s t : Scope) : Prop where
  crateName : t.crateName = s.crateName
  modulePath : t.modulePath = s.modulePath

theorem SameModule.absolute_eq {s t : Scope} (h : SameModule s t) (segments : List String) :
    t.absolute segments = s.absolute segments := by
  obtain ⟨crateName, modulePath⟩ := h
  unfold absolute parent
  rw [crateName, modulePath]

theorem SameModule.trans {s t u : Scope} (h : SameModule s t) (k : SameModule t u) : SameModule s u :=
  ⟨k.crateName.trans h.crateName, k.modulePath.trans h.modulePath⟩

theorem sameModule_addImport (s : Scope) (i : Import) : SameModule s (s.addImport i) := by
  cases i
  · exact ⟨rfl, rfl⟩
  · exact ⟨rfl, rfl⟩

theorem sameModule_addImports (s : Scope) (imports : List Import) : SameModule s (imports.foldl addImport s) := by
  induction imports generalizing s with
  | nil => exact ⟨rfl, rfl⟩
  | cons i imports ih => exact (sameModule_addImport s i).trans (ih (s.addImport i))

/-- taking in an item is taking in its imports and the type that it declares -/
theorem addItem_eq (s : Scope) (item : Item) :
    s.addItem item = { item.imports.foldl addImport s with
      locals := item.declares?.elim s.locals s.locals.insert } := by
  cases item with
  | use absolute tree =>
    have kept : ∀ (imports : List Import) (s : Scope), (imports.foldl addImport s).locals = s.locals := by
      intro imports
      induction imports with
      | nil => exact fun _ => rfl
      | cons i imports ih =>
        intro s
        rw [List.foldl_cons, ih]
        cases i
        · rfl
        · rfl
    show (tree.imports _).foldl addImport s = { (tree.imports _).foldl addImport s with locals := s.locals }
    rw [← kept (tree.imports (if absolute then [""] else [])) s]
  | struct _ => rfl
  | enum _ => rfl
  | trait _ _ => rfl
  | impl _ => rfl
  | module _ _ => rfl
  | other => rfl

theorem sameModule_addItems (s : Scope) (items : List Item) : SameModule s (items.foldl addItem s) := by
  induction items generalizing s with
  | nil => exact ⟨rfl, rfl⟩
  | cons item items ih =>
    have step : SameModule s (s.addItem item) := by
      rw [addItem_eq]
      have imports := sameModule_addImports s item.imports
      exact ⟨imports.crateName, imports.modulePath⟩
    exact step.trans (ih (s.addItem item))

/-- the types of a module are those that its items declare -/
theorem mem_locals_addItems {s : Scope} {items : List Item} {name : String} :
    name ∈ (items.foldl addItem s).locals ↔ name ∈ s.locals ∨ name ∈ items.filterMap Item.declares? := by
  induction items generalizing s with
  | nil => simp
  | cons item items ih =>
    rw [List.foldl_cons, ih, addItem_eq, List.filterMap_cons]
    cases item.declares? with
    | none => rfl
    | some declared => simp only [Option.elim_some, NameSet.mem_insert, List.mem_cons, or_left_comm, or_assoc]

/-- the imports of a module are those of its items -/
theorem imports_addItems (s : Scope) (items : List Item) :
    (items.foldl addItem s).imports = ((items.flatMap Item.imports).foldl addImport s).imports ∧
      (items.foldl addItem s).globs = ((items.flatMap Item.imports).foldl addImport s).globs := by
  -- imports are resolved by the crate and the module alone, which declarations leave as they are
  have locals : ∀ (imports : List Import) (s t : Scope), SameModule s t → s.imports = t.imports → s.globs = t.globs →
      (imports.foldl addImport s).imports = (imports.foldl addImport t).imports ∧
        (imports.foldl addImport s).globs = (imports.foldl addImport t).globs := by
    intro imports
    induction imports with
    | nil => exact fun _ _ _ names globs => ⟨names, globs⟩
    | cons i imports ih =>
      intro s t same names globs
      refine ih (s.addImport i) (t.addImport i) ?_ ?_ ?_
      · exact ⟨(sameModule_addImport t i).crateName.trans (same.crateName.trans (sameModule_addImport s i).crateName.symm),
          (sameModule_addImport t i).modulePath.trans
            (same.modulePath.trans (sameModule_addImport s i).modulePath.symm)⟩
      · cases i with
        | name _ segments =>
          simp only [addImport]
          rw [names, same.absolute_eq]
        | everything _ => exact names
      · cases i with
        | name _ _ => exact globs
        | everything segments =>
          simp only [addImport]
          rw [globs, same.absolute_eq]
  induction items generalizing s with
  | nil => exact ⟨rfl, rfl⟩
  | cons item items ih =>
    rw [List.foldl_cons, List.flatMap_cons, List.foldl_append, (ih _).1, (ih _).2, addItem_eq]
    exact locals _ _ _ ⟨rfl, rfl⟩ rfl rfl

theorem get?_addImports_of_not_imported {s : Scope} {imports : List Import} {name : String}
    (h : ∀ segments, Import.name name segments ∉ imports) :
    (imports.foldl addImport s).imports.get? name = s.imports.get? name := by
  induction imports generalizing s with
  | nil => rfl
  | cons i imports ih =>
    rw [List.foldl_cons, ih fun segments inRest => h segments (List.mem_cons_of_mem i inRest)]
    cases i with
    | name as segments =>
      have other : name ≠ as := fun same => h segments (same ▸ List.mem_cons_self)
      exact (NameMap.get?_insert _ _ _ _).trans (if_neg other)
    | everything _ => rfl

/-- an import of a name is found when every import of the name is the same -/
theorem get?_addImports {s : Scope} {imports : List Import} {name : String} {segments : List String}
    (mem : Import.name name segments ∈ imports)
    (unique : ∀ others, Import.name name others ∈ imports → others = segments) :
    (imports.foldl addImport s).imports.get? name = some (s.absolute segments) := by
  induction imports generalizing s with
  | nil => cases mem
  | cons i imports ih =>
    rw [List.foldl_cons]
    by_cases later : ∃ others, Import.name name others ∈ imports
    · obtain ⟨others, inRest⟩ := later
      obtain rfl := unique others (List.mem_cons_of_mem i inRest)
      rw [ih inRest fun others h => unique others (List.mem_cons_of_mem i h), (sameModule_addImport s i).absolute_eq]
    · rw [get?_addImports_of_not_imported fun others h => later ⟨others, h⟩]
      rcases List.mem_cons.1 mem with rfl | inRest
      · exact (NameMap.get?_insert _ _ _ _).trans (if_pos rfl)
      · exact absurd ⟨segments, inRest⟩ later

theorem globs_addImports (s : Scope) (imports : List Import) :
    (imports.foldl addImport s).globs = s.globs ++ (imports.filterMap Import.everything?).map s.absolute := by
  induction imports generalizing s with
  | nil => exact (List.append_nil _).symm
  | cons i imports ih =>
    have same : (s.addImport i).absolute = s.absolute := funext (sameModule_addImport s i).absolute_eq
    rw [List.foldl_cons, ih, same]
    cases i with
    | name _ _ => rfl
    | everything segments =>
      show (s.globs ++ [s.absolute segments]) ++ _ = _
      rw [List.append_assoc]
      rfl

/-! ## Looking up -/

variable {crateName modulePath : String} {items : List Item} {name : String}

theorem mem_locals_ofItems : name ∈ (ofItems crateName modulePath items).locals ↔
    name ∈ items.filterMap Item.declares? := by
  unfold ofItems
  rw [mem_locals_addItems]
  exact or_iff_right (NameSet.not_mem_empty name)

theorem localName_ofItems : (ofItems crateName modulePath items).localName name = modulePath ++ "::" ++ name := by
  unfold localName ofItems
  rw [(sameModule_addItems (empty crateName modulePath) items).modulePath]
  rfl

/-- **A name that the module declares** stands for the type of the module. -/
theorem resolve_declared (type : namesType name = true) (h : name ∈ items.filterMap Item.declares?) :
    (ofItems crateName modulePath items).resolve ⟨false, [name]⟩ = modulePath ++ "::" ++ name := by
  obtain ⟨-, crate, self, super⟩ := namesType_ne type
  have declared : (ofItems crateName modulePath items).locals.contains name = true :=
    NameSet.contains_iff.2 (mem_locals_ofItems.2 h)
  unfold resolve resolveFirst
  simp only [List.isEmpty_nil, Bool.true_and, crate, self, super, or_self, if_false, declared, if_true,
    Bool.false_eq_true]
  exact localName_ofItems

/-- **A name that is imported** and not declared stands for what is imported. -/
theorem resolve_imported (segments : List String) (type : namesType name = true)
    (new : name ∉ items.filterMap Item.declares?) (mem : Import.name name segments ∈ items.flatMap Item.imports)
    (unique : ∀ others, Import.name name others ∈ items.flatMap Item.imports → others = segments) :
    (ofItems crateName modulePath items).resolve ⟨false, [name]⟩ = (empty crateName modulePath).absolute segments := by
  obtain ⟨-, crate, self, super⟩ := namesType_ne type
  have notDeclared : (ofItems crateName modulePath items).locals.contains name = false := by
    rw [← Bool.not_eq_true, NameSet.contains_iff, mem_locals_ofItems]
    exact new
  have imported : (ofItems crateName modulePath items).imports.get? name =
      some ((empty crateName modulePath).absolute segments) := by
    unfold ofItems
    rw [(imports_addItems _ _).1, get?_addImports mem unique]
  unfold resolve resolveFirst
  simp only [List.isEmpty_nil, Bool.true_and, crate, self, super, or_self, if_false, notDeclared, Bool.false_eq_true,
    imported]
  rfl

/-- **A name that is neither declared nor imported** is looked for in the first module of which everything is
imported. -/
theorem resolve_everything (segments : List String) {more : List (List String)} (type : namesType name = true)
    (new : name ∉ items.filterMap Item.declares?)
    (notImported : ∀ others, Import.name name others ∉ items.flatMap Item.imports)
    (globs : (items.flatMap Item.imports).filterMap Import.everything? = segments :: more) :
    (ofItems crateName modulePath items).resolve ⟨false, [name]⟩ =
      (empty crateName modulePath).absolute segments ++ "::" ++ name := by
  obtain ⟨-, crate, self, super⟩ := namesType_ne type
  have notDeclared : (ofItems crateName modulePath items).locals.contains name = false := by
    rw [← Bool.not_eq_true, NameSet.contains_iff, mem_locals_ofItems]
    exact new
  have unknown : (ofItems crateName modulePath items).imports.get? name = none := by
    unfold ofItems
    rw [(imports_addItems _ _).1, get?_addImports_of_not_imported notImported]
    rfl
  have everything : (ofItems crateName modulePath items).globs =
      (empty crateName modulePath).absolute segments :: more.map (empty crateName modulePath).absolute := by
    unfold ofItems
    rw [(imports_addItems _ _).2, globs_addImports, globs]
    rfl
  unfold resolve resolveFirst
  simp only [List.isEmpty_nil, Bool.true_and, crate, self, super, or_self, if_false, notDeclared, Bool.false_eq_true,
    unknown, everything, if_true]
  rfl

/-- a path of a use declaration that starts with a crate stands for itself -/
theorem absolute_crate {s : Scope} {first : String} (h : namesType first = true) (rest : List String) :
    s.absolute (first :: rest) = joinSegments (first :: rest) := by
  obtain ⟨root, crate, self, super⟩ := namesType_ne h
  rw [absolute, if_neg root, if_neg crate, if_neg self, if_neg super]

end Scope
end ProcessBuild.Source
