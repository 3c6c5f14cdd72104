/-
Items in any order. A file tells the same of types when its items are put in another order, at the top and inside every
module in it, as long as the use declarations of each module stay in theirs: only these are taken in one after the
other. The scope of a module holds its types as a set and its imports by name, and what the items tell is merged.
- `Scope.ofItems_congr`: the scope of a module depends on the types that it declares and on its imports in order.
- `Rearranged.facts`: rearranged items tell the same facts in another order.
- `TypeIndex.ofItems_of_rearranged`: rearranged items have the same index.
-/
import ProcessBuild.Proofs.TypeIndex.LocalImpls

namespace ProcessBuild

open Source

namespace TypeIndex

/-- the index of some facts does not depend on their order -/
theorem ofFacts_of_perm {facts others : List TypeFact} (same : facts.Perm others) : ofFacts facts = ofFacts others :=
  same.foldl_eq' (fun f _ g _ index => insert_comm index f.1 g.1 f.2 g.2) empty

end TypeIndex

namespace Source

/-! ## Rearranged items -/

/-- whether an item brings names into use -/
def Item.isUse : Item → Bool
  | .use _ _ => true
  | _ => false

/-- items in another order, at the top and inside the modules among them at any depth; the use declarations of each
module keep their order -/
inductive Rearranged : List Item → List Item → Prop where
  /-- the items of one module in another order -/
  | order {items others : List Item} (sameItems : items.Perm others)
      (sameUses : items.filter Item.isUse = others.filter Item.isUse) : Rearranged items others
  /-- the items of a module among others -/
  | inside {items others : List Item} (before : List Item) (name : String) (after : List Item)
      (inner : Rearranged items others) :
      Rearranged (before ++ .module name items :: after) (before ++ .module name others :: after)
  | trans {items between others : List Item} (first : Rearranged items between) (second : Rearranged between others) :
      Rearranged items others

/-! ## Scopes -/

section Scopes

variable {crateName modulePath : String} {items others : List Item}

/-- **The scope of a module** depends on which types the module declares and on what it imports in order. -/
theorem Scope.ofItems_congr
    (declared : ∀ name, name ∈ items.filterMap Item.declares? ↔ name ∈ others.filterMap Item.declares?)
    (imported : items.flatMap Item.imports = others.flatMap Item.imports) :
    ofItems crateName modulePath items = ofItems crateName modulePath others := by
  have locals : (ofItems crateName modulePath items).locals = (ofItems crateName modulePath others).locals := by
    ext name
    rw [mem_locals_ofItems, mem_locals_ofItems, declared]
  obtain ⟨imports, globs⟩ := imports_addItems (empty crateName modulePath) items
  obtain ⟨othersImports, othersGlobs⟩ := imports_addItems (empty crateName modulePath) others
  have module := sameModule_addItems (empty crateName modulePath) items
  have othersModule := sameModule_addItems (empty crateName modulePath) others
  rw [imported, ← othersImports] at imports
  rw [imported, ← othersGlobs] at globs
  rw [Scope.mk.injEq]
  exact ⟨module.crateName.trans othersModule.crateName.symm, module.modulePath.trans othersModule.modulePath.symm,
    locals, imports, globs⟩

/-- only use declarations import -/
theorem flatMap_imports (items : List Item) :
    items.flatMap Item.imports = (items.filter Item.isUse).flatMap Item.imports := by
  induction items with
  | nil => rfl
  | cons item items ih =>
    rw [List.flatMap_cons, List.filter_cons, ih]
    cases item <;> rfl

theorem Scope.ofItems_of_perm (sameItems : items.Perm others)
    (sameUses : items.filter Item.isUse = others.filter Item.isUse) :
    ofItems crateName modulePath items = ofItems crateName modulePath others := by
  refine ofItems_congr (fun name => (sameItems.filterMap Item.declares?).mem_iff) ?_
  rw [flatMap_imports items, sameUses, ← flatMap_imports]

theorem factsOfAll_eq (scope : Scope) (items : List Item) :
    factsOfAll scope items = items.flatMap fun item => item.facts scope := by
  induction items with
  | nil => rfl
  | cons item items ih => rw [factsOfAll, ih, List.flatMap_cons]

/-- **Rearranged items** tell the same facts in another order. -/
theorem Rearranged.facts (h : Rearranged items others) :
    (factsOfAll (Scope.ofItems crateName modulePath items) items).Perm
      (factsOfAll (Scope.ofItems crateName modulePath others) others) := by
  induction h generalizing modulePath with
  | order sameItems sameUses =>
    rw [Scope.ofItems_of_perm sameItems sameUses, factsOfAll_eq, factsOfAll_eq]
    exact sameItems.flatMap_right _
  | inside before name after inner ih =>
    -- modules bring no name into the scope around them, so only what this one tells differs
    rw [Scope.ofItems_middle fun _ => rfl, Scope.ofItems_middle fun _ => rfl, factsOfAll_append, factsOfAll_append,
      factsOfAll, factsOfAll, facts_module, facts_module]
    exact (ih.append_right _).append_left _
  | trans first second ih₁ ih₂ => exact ih₁.trans ih₂

end Scopes

end Source

/-! ## Indexes -/

namespace TypeIndex

/-- **The order of items** does not matter to the index of a file, apart from that of the use declarations of each
module. -/
theorem ofItems_of_rearranged {items others : List Item} (h : Rearranged items others) (crateName modulePath : String) :
    ofItems crateName modulePath items = ofItems crateName modulePath others :=
  ofFacts_of_perm h.facts

/-- the use declarations of a module, two of them of one name -/
def clashingUses : List Item := [.use false (.path "first" (.name "Told")), .use false (.path "second" (.name "Told"))]

/-- an implementation of the trait that is in use under the name `Told` for a type of its module -/
def toldFor (type : String) : Item := .impl ⟨false, ⟨false, ["Told"]⟩, some ⟨false, [type]⟩, []⟩

/-- a module whose implementation comes before its imports and the type that it is for -/
def eagerModule : List Item := toldFor "State" :: clashingUses ++ [.enum "State"]

/-- the same module with the implementation last -/
def tidyModule : List Item := clashingUses ++ [.enum "State"] ++ [toldFor "State"]

/-- a file whose implementation and module come before its imports and its type -/
def eagerFile : List Item := [toldFor "Order"] ++ .module "inner" eagerModule :: clashingUses ++ [.struct "Order"]

/-- the same file with the implementation and the module last -/
def tidyFile : List Item := clashingUses ++ [.struct "Order"] ++ [toldFor "Order", .module "inner" tidyModule]

theorem ofItems_eagerFile :
    Rearranged eagerFile tidyFile ∧
      ofItems "app" "app::orders" eagerFile = ofItems "app" "app::orders" tidyFile ∧
      (ofItems "app" "app::orders" eagerFile).types.entries =
        [("app::orders::Order", { kind := some .struct, interfaces := NameSet.ofList ["second::Told"] }),
          ("app::orders::inner::State", { kind := some .enum, interfaces := NameSet.ofList ["second::Told"] })] := by
  have inner : Rearranged eagerModule tidyModule :=
    .order (@List.perm_append_comm Item [toldFor "State"] (clashingUses ++ [Item.enum "State"])) rfl
  have outer : Rearranged ([toldFor "Order", .module "inner" tidyModule] ++ (clashingUses ++ [.struct "Order"]))
      tidyFile :=
    .order List.perm_append_comm rfl
  have rearranged : Rearranged eagerFile tidyFile := .trans (.inside [toldFor "Order"] "inner" _ inner) outer
  exact ⟨rearranged, ofItems_of_rearranged rearranged "app" "app::orders", by decide +kernel⟩

/-- use declarations in another order bring another trait into use -/
example :
    (ofItems "app" "app::orders" (clashingUses.reverse ++ [.struct "Order", toldFor "Order"])).types.entries =
      [("app::orders::Order", { kind := some .struct, interfaces := NameSet.ofList ["first::Told"] })] := by
  decide +kernel

end TypeIndex
end ProcessBuild
