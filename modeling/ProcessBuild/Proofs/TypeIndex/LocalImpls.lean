/-
Implementations of traits for types of the same file. What a module of a file tells of types depends on the modules
around it by its full name alone, and an implementation changes nothing about the scope that it stands in. So a file
with an implementation tells what the file without it does, and one fact more; the name that this fact is about is the
one that the path of the type stands for in the module of the implementation.
- `ofFacts_middle`: a fact anywhere among others is one more entry, or more of one.
- `facts_enclose`: what a module tells, wherever it stands in its file.
- `Position.index_implementing`: what an implementation adds to the index of its file.
- `Position.impl_extends_entry`: an implementation for a type that a module below declares extends the entry of this type, if the
  type is one of the module itself or the module imports the first module on the way to it.
- `Position.impl_misses_entry`: without the import, the path of the type is taken for a full name.
-/
import ProcessBuild.Proofs.Source.Scope
import ProcessBuild.Proofs.TypeIndex.Growth
import ProcessBuild.Proofs.TypeIndex.Join

namespace ProcessBuild

open Source

/-! ## Facts in any order -/

theorem TypeInfo.merge_right_comm (a b c : TypeInfo) : (a.merge b).merge c = (a.merge c).merge b := by
  rw [merge_assoc, merge_comm b c, merge_assoc]

namespace TypeIndex

theorem insert_comm (index : TypeIndex) (name other : String) (x y : TypeInfo) :
    (index.insert name x).insert other y = (index.insert other y).insert name x := by
  apply ext_get?
  intro asked
  simp only [get?_insert]
  by_cases same : name = other
  · subst same
    by_cases isAsked : asked = name
    · simp only [isAsked, if_true, Option.getD_some, TypeInfo.merge_right_comm]
    · simp only [isAsked, if_false]
  · by_cases isName : asked = name
    · subst isName
      simp only [same, if_true, if_false]
    · simp only [isName, if_false, Ne.symm same]

theorem insertAll_insert (index : TypeIndex) (f : TypeFact) (facts : List TypeFact) :
    (index.insert f.1 f.2).insertAll facts = (index.insertAll facts).insert f.1 f.2 := by
  induction facts generalizing index with
  | nil => rfl
  | cons g facts ih =>
    show ((index.insert f.1 f.2).insert g.1 g.2).insertAll facts = _
    rw [insert_comm, ih]
    rfl

/-- **A fact among others** is added to what the others tell. -/
theorem ofFacts_middle (before after : List TypeFact) (f : TypeFact) :
    ofFacts (before ++ f :: after) = (ofFacts (before ++ after)).insert f.1 f.2 := by
  show empty.insertAll (before ++ f :: after) = (empty.insertAll (before ++ after)).insert f.1 f.2
  rw [insertAll_append, insertAll_append]
  exact insertAll_insert _ f after

/-- an index of facts has an entry for each name that a fact is about -/
theorem get?_ofFacts_ne_none {facts : List TypeFact} {f : TypeFact} (h : f ∈ facts) : (ofFacts facts).get? f.1 ≠ none := by
  have anything : TypeInfo.IsLasting fun _ => True := ⟨fun _ => trivial, fun _ => trivial⟩
  obtain ⟨info, known, -⟩ : (empty.insertAll facts).Tells f.1 fun _ => True :=
    tells_insertAll anything (.inr ⟨f.2, h, trivial⟩)
  show (empty.insertAll facts).get? f.1 ≠ none
  rw [known]
  exact Option.some_ne_none info

end TypeIndex

namespace Source

/-! ## Modules of a file -/

/-- the full name of the module that names of modules lead to, or of a type in one -/
def nameBelow (modulePath : String) (names : List String) : String := names.foldl (fun m n => m ++ "::" ++ n) modulePath

theorem joinSegments_cons (modulePath : String) (names : List String) :
    joinSegments (modulePath :: names) = nameBelow modulePath names := by
  induction names generalizing modulePath with
  | nil => exact String.intercalate_singleton
  | cons n names ih => exact ih (modulePath ++ "::" ++ n)

/-- a module among other items -/
structure Level where
  before : List Item
  name : String
  after : List Item

/-- the items of a file around those of a module in it -/
def enclose (levels : List Level) (items : List Item) : List Item :=
  levels.foldr (fun l inner => l.before ++ .module l.name inner :: l.after) items

/-- the names of modules lead from items to the items of the last of them -/
inductive Inside : List Item → List String → List Item → Prop where
  | here (items : List Item) : Inside items [] items
  | module {items inner last : List Item} {name : String} {names : List String} (isItem : .module name inner ∈ items)
      (rest : Inside inner names last) : Inside items (name :: names) last

section Scopes

variable {crateName modulePath : String} {before after items last : List Item} {item : Item} {names : List String}

/-- an item that brings no name into a scope can be left out of it -/
theorem Scope.ofItems_middle (silent : ∀ s : Scope, s.addItem item = s) :
    ofItems crateName modulePath (before ++ item :: after) = ofItems crateName modulePath (before ++ after) := by
  unfold ofItems
  rw [List.foldl_append, List.foldl_cons, silent, List.foldl_append]

theorem Scope.crateName_ofItems : (ofItems crateName modulePath items).crateName = crateName :=
  (sameModule_addItems (empty crateName modulePath) items).crateName

theorem facts_module {name : String} {inner : List Item} :
    (Item.module name inner).facts (Scope.ofItems crateName modulePath items) =
      factsOfAll (Scope.ofItems crateName (modulePath ++ "::" ++ name) inner) inner := by
  rw [Item.facts, Scope.crateName_ofItems, Scope.localName_ofItems]

/-- **What a module tells** is told among what its file tells, and the rest does not depend on its items. -/
theorem facts_enclose (crateName modulePath : String) (levels : List Level) :
    ∃ front back, ∀ items, factsOfAll (Scope.ofItems crateName modulePath (enclose levels items)) (enclose levels items) =
      front ++ factsOfAll (Scope.ofItems crateName (nameBelow modulePath (levels.map Level.name)) items) items ++ back := by
  induction levels generalizing modulePath with
  | nil => exact ⟨[], [], fun items => (List.append_nil _).symm⟩
  | cons l levels ih =>
    obtain ⟨front, back, inner⟩ := ih (modulePath ++ "::" ++ l.name)
    have around : ∀ items, Scope.ofItems crateName modulePath (enclose (l :: levels) items) =
        Scope.ofItems crateName modulePath (l.before ++ l.after) := fun _ => Scope.ofItems_middle fun _ => rfl
    refine ⟨factsOfAll (Scope.ofItems crateName modulePath (l.before ++ l.after)) l.before ++ front,
      back ++ factsOfAll (Scope.ofItems crateName modulePath (l.before ++ l.after)) l.after, fun items => ?_⟩
    rw [around]
    show factsOfAll _ (l.before ++ .module l.name (enclose levels items) :: l.after) = _
    rw [factsOfAll_append, factsOfAll, facts_module, inner]
    simp only [nameBelow, List.map_cons, List.foldl_cons, List.append_assoc]

/-- what an item tells is told among what its items tell -/
theorem facts_subset (scope : Scope) (isItem : item ∈ items) : item.facts scope ⊆ factsOfAll scope items := by
  induction items with
  | nil => cases isItem
  | cons first rest ih =>
    rw [factsOfAll]
    rcases List.mem_cons.1 isItem with rfl | inRest
    · exact List.subset_append_left _ _
    · exact List.Subset.trans (ih inRest) (List.subset_append_right _ _)

/-- **A module below** tells of the types that it declares, by their full names. -/
theorem facts_inside (crateName modulePath : String) {type : String} (inside : Inside items names last)
    (declared : .struct type ∈ last ∨ .enum type ∈ last) :
    ∃ info, (nameBelow modulePath (names ++ [type]), info) ∈
      factsOfAll (Scope.ofItems crateName modulePath items) items := by
  induction inside generalizing modulePath with
  | here items =>
    have own : ∀ kind, (nameBelow modulePath ([] ++ [type]), TypeInfo.declared kind) ∈
        [((Scope.ofItems crateName modulePath items).localName type, TypeInfo.declared kind)] := by
      intro kind
      rw [Scope.localName_ofItems]
      exact List.mem_singleton.2 rfl
    rcases declared with isStruct | isEnum
    · refine ⟨.declared .struct, facts_subset _ isStruct ?_⟩
      rw [Item.facts]
      exact own .struct
    · refine ⟨.declared .enum, facts_subset _ isEnum ?_⟩
      rw [Item.facts]
      exact own .enum
  | @module items inner last name names isItem rest ih =>
    obtain ⟨info, told⟩ := ih (modulePath ++ "::" ++ name) declared
    refine ⟨info, facts_subset _ isItem ?_⟩
    rw [facts_module]
    exact told

/-- the first segment of a path stands for what is imported by its name, or else for a crate of its name -/
theorem Scope.resolve_through {s : Scope} {first : String} {rest : List String} (isName : namesType first = true)
    (goesOn : rest ≠ []) : s.resolve ⟨false, first :: rest⟩ = joinSegments ((s.imports.get? first).getD first :: rest) := by
  obtain ⟨-, crate, self, super⟩ := namesType_ne isName
  have notAlone : rest.isEmpty = false := List.isEmpty_eq_false_iff.2 goesOn
  unfold resolve resolveFirst
  simp only [notAlone, crate, self, super, or_self, Bool.false_and, Bool.false_eq_true, if_false]
  cases s.imports.get? first with
  | none => rfl
  | some name => rfl

/-- **The path of a type below** stands for its full name if the module imports the first module on the way. -/
theorem Scope.resolve_inside {type : String} (inside : Inside items names last)
    (declared : .struct type ∈ last ∨ .enum type ∈ last) (isName : ∀ w ∈ names ++ [type], namesType w = true)
    (reaches : ∀ first, names.head? = some first →
      (ofItems crateName modulePath items).imports.get? first = some (modulePath ++ "::" ++ first)) :
    (ofItems crateName modulePath items).resolve ⟨false, names ++ [type]⟩ = nameBelow modulePath (names ++ [type]) := by
  cases inside with
  | here =>
    refine resolve_declared (isName type List.mem_cons_self) (List.mem_filterMap.2 ?_)
    rcases declared with isStruct | isEnum
    · exact ⟨_, isStruct, rfl⟩
    · exact ⟨_, isEnum, rfl⟩
  | @module _ inner _ first rest isItem below =>
    have goesOn : rest ++ [type] ≠ [] := List.append_ne_nil_of_right_ne_nil rest (List.cons_ne_nil type [])
    rw [List.cons_append, resolve_through (isName first List.mem_cons_self) goesOn, reaches first rfl, Option.getD_some,
      joinSegments_cons]
    rfl

end Scopes

/-! ## Implementations in a file -/

def Item.implementing (trait : Path) (segments : List String) (targets : List (Option Path)) : Item :=
  .impl ⟨false, trait, some ⟨false, segments⟩, targets⟩

/-- a position among the items of a module of a file -/
structure Position where
  crateName : String
  /-- the module that the file becomes -/
  modulePath : String
  levels : List Level
  before : List Item
  after : List Item

namespace Position

def module (p : Position) : String := nameBelow p.modulePath (p.levels.map Level.name)

def items (p : Position) (here : List Item) : List Item := p.before ++ (here ++ p.after)

/-- the scope of the module with some items at the position -/
def scope (p : Position) (here : List Item) : Scope := .ofItems p.crateName p.module (p.items here)

def index (p : Position) (here : List Item) : TypeIndex :=
  .ofItems p.crateName p.modulePath (enclose p.levels (p.items here))

variable (p : Position)

/-- **An item that tells one fact** and brings no name into its scope adds this fact to the index of its file. -/
theorem index_item {item : Item} {f : TypeFact} (silent : ∀ s : Scope, s.addItem item = s)
    (told : item.facts (p.scope [item]) = [f]) : p.index [item] = (p.index []).insert f.1 f.2 := by
  obtain ⟨front, back, all⟩ := facts_enclose p.crateName p.modulePath p.levels
  have same : p.scope [item] = p.scope [] := Scope.ofItems_middle silent
  have withItem : factsOfAll (p.scope [item]) (p.items [item]) =
      factsOfAll (p.scope []) p.before ++ f :: factsOfAll (p.scope []) p.after := by
    show factsOfAll _ (p.before ++ item :: p.after) = _
    rw [factsOfAll_append, factsOfAll, told, same]
    rfl
  have without : factsOfAll (p.scope []) (p.items []) =
      factsOfAll (p.scope []) p.before ++ factsOfAll (p.scope []) p.after := factsOfAll_append _ _ _
  unfold scope at withItem without
  unfold index TypeIndex.ofItems
  rw [all, all]
  show TypeIndex.ofFacts (front ++ factsOfAll (.ofItems _ p.module _) _ ++ back) =
    (TypeIndex.ofFacts (front ++ factsOfAll (.ofItems _ p.module _) _ ++ back)).insert _ _
  rw [withItem, without]
  generalize factsOfAll _ p.before = own
  generalize factsOfAll _ p.after = others
  have split : front ++ (own ++ f :: others) ++ back = (front ++ own) ++ f :: (others ++ back) := by simp
  rw [split, TypeIndex.ofFacts_middle]
  simp

variable {names : List String} {type : String} {last : List Item} {trait : Path} {targets : List (Option Path)}

/-- an implementation of a trait that leads to no other type gives the trait to what the path of the type stands for -/
theorem index_implementing {segments : List String} {scope : Scope}
    (isScope : scope = p.scope [.implementing trait segments targets]) (noDeref : ¬IsDeref (scope.resolve trait)) :
    p.index [.implementing trait segments targets] =
      (p.index []).insert (scope.resolve ⟨false, segments⟩) { interfaces := NameSet.empty.insert (scope.resolve trait) } := by
  subst isScope
  exact p.index_item (fun _ => rfl) (facts_interface rfl rfl noDeref)

/-- a type that a module below declares has an entry without the items at the position -/
theorem index_inside (inside : Inside (p.items []) names last) (declared : .struct type ∈ last ∨ .enum type ∈ last) :
    ∃ known, (p.index []).get? (nameBelow p.module (names ++ [type])) = some known := by
  obtain ⟨front, back, all⟩ := facts_enclose p.crateName p.modulePath p.levels
  obtain ⟨info, told⟩ := facts_inside p.crateName p.module inside declared
  refine Option.ne_none_iff_exists'.1 ?_
  unfold index TypeIndex.ofItems
  rw [all]
  exact TypeIndex.get?_ofFacts_ne_none (List.mem_append_left back (List.mem_append_right front told))

/-- **An implementation for a type of the same file** extends the entry of the type. The type stands in a module below
that of the implementation, and the path is that from the one to the other; if it leads through modules, the module of
the implementation imports the first of them. Then the type has an entry without the implementation as well, the trait
is one more of its interfaces, and every other name has the entry, or none, that it has without the implementation. -/
theorem impl_extends_entry {scope : Scope} (isScope : scope = p.scope [.implementing trait (names ++ [type]) targets])
    (inside : Inside (p.items []) names last) (declared : .struct type ∈ last ∨ .enum type ∈ last)
    (isName : ∀ w ∈ names ++ [type], namesType w = true) (noDeref : ¬IsDeref (scope.resolve trait))
    (reaches : ∀ first, names.head? = some first → scope.imports.get? first = some (p.module ++ "::" ++ first)) :
    ∃ known extended,
      (p.index []).get? (nameBelow p.module (names ++ [type])) = some known ∧
      (p.index [.implementing trait (names ++ [type]) targets]).get? (nameBelow p.module (names ++ [type])) =
        some extended ∧
      extended = known.merge { interfaces := NameSet.empty.insert (scope.resolve trait) } ∧
      scope.resolve trait ∈ extended.interfaces ∧
      ∀ other, other ≠ nameBelow p.module (names ++ [type]) →
        (p.index [.implementing trait (names ++ [type]) targets]).get? other = (p.index []).get? other := by
  have same : p.scope [.implementing trait (names ++ [type]) targets] = p.scope [] := Scope.ofItems_middle fun _ => rfl
  have full : scope.resolve ⟨false, names ++ [type]⟩ = nameBelow p.module (names ++ [type]) := by
    rw [isScope, same] at reaches ⊢
    exact Scope.resolve_inside inside declared isName reaches
  have extension := p.index_implementing isScope noDeref
  rw [full] at extension
  obtain ⟨known, isKnown⟩ := p.index_inside inside declared
  refine ⟨known, known.merge { interfaces := NameSet.empty.insert (scope.resolve trait) }, isKnown, ?_, rfl, ?_, ?_⟩
  · rw [extension, TypeIndex.get?_insert, if_pos rfl, isKnown, Option.getD_some]
  · exact NameSet.mem_union.2 (.inr (NameSet.mem_insert.2 (.inl rfl)))
  · intro other isOther
    rw [extension, TypeIndex.get?_insert, if_neg isOther]

/-- a position in a module of a file, after an import of the module `inner` and before this module -/
def innerPosition : Position where
  crateName := "app"
  modulePath := "app::processes_orders"
  levels := [⟨[.struct "Order"], "outer", []⟩]
  before := [.use false (.path "self" (.name "inner"))]
  after := [.module "inner" [.other, .module "deep" [.enum "State"]]]

theorem innerPosition_extends :
    let debug : Path := ⟨false, ["std", "fmt", "Debug"]⟩
    let scope := innerPosition.scope [.implementing debug ["inner", "deep", "State"] []]
    Inside (innerPosition.items []) ["inner", "deep"] [.enum "State"] ∧
    (∀ w ∈ ["inner", "deep", "State"], namesType w = true) ∧ ¬IsDeref (scope.resolve debug) ∧
    scope.imports.get? "inner" = some (innerPosition.module ++ "::" ++ "inner") ∧
    nameBelow innerPosition.module ["inner", "deep", "State"] = "app::processes_orders::outer::inner::deep::State" ∧
    ∃ known extended,
      (innerPosition.index []).get? (nameBelow innerPosition.module ["inner", "deep", "State"]) = some known ∧
      (innerPosition.index [.implementing debug ["inner", "deep", "State"] []]).get?
        (nameBelow innerPosition.module ["inner", "deep", "State"]) = some extended ∧
      extended = known.merge { interfaces := NameSet.empty.insert (scope.resolve debug) } ∧
      scope.resolve debug ∈ extended.interfaces ∧
      ∀ other, other ≠ nameBelow innerPosition.module ["inner", "deep", "State"] →
        (innerPosition.index [.implementing debug ["inner", "deep", "State"] []]).get? other =
          (innerPosition.index []).get? other := by
  intro debug scope
  have inside : Inside (innerPosition.items []) ["inner", "deep"] [.enum "State"] :=
    .module (List.mem_cons_of_mem _ List.mem_cons_self)
      (.module (List.mem_cons_of_mem _ List.mem_cons_self) (.here _))
  have isName : ∀ w ∈ ["inner", "deep", "State"], namesType w = true := by decide
  have noDeref : ¬IsDeref (scope.resolve debug) := by decide
  have imported : scope.imports.get? "inner" = some (innerPosition.module ++ "::" ++ "inner") := by decide
  have reaches : ∀ first, ["inner", "deep"].head? = some first →
      scope.imports.get? first = some (innerPosition.module ++ "::" ++ first) := by
    intro first isFirst
    obtain rfl := Option.some.inj isFirst
    exact imported
  exact ⟨inside, isName, noDeref, imported, by decide,
    innerPosition.impl_extends_entry rfl inside (.inr List.mem_cons_self) isName noDeref reaches⟩

/-- **Without the import** of the first module on the way, the path of the type is taken for a full name, and the entry of
this name is extended or made instead. -/
theorem impl_misses_entry {first : String} {rest : List String} {scope : Scope}
    (isScope : scope = p.scope [.implementing trait (first :: rest) targets]) (goesOn : rest ≠ [])
    (isName : namesType first = true) (noDeref : ¬IsDeref (scope.resolve trait))
    (notImported : scope.imports.get? first = none) :
    p.index [.implementing trait (first :: rest) targets] =
      (p.index []).insert (joinSegments (first :: rest)) { interfaces := NameSet.empty.insert (scope.resolve trait) } := by
  have written : scope.resolve ⟨false, first :: rest⟩ = joinSegments (first :: rest) := by
    rw [Scope.resolve_through isName goesOn, notImported, Option.getD_none]
  rw [p.index_implementing isScope noDeref, written]

/-- an implementation for a type of the module `inner`, which is not imported, makes an entry of its own -/
example :
    let debug : Path := ⟨false, ["std", "fmt", "Debug"]⟩
    ((⟨"app", "app::processes_orders", [], [.module "inner" [.struct "Inner"]], []⟩ : Position).index
        [.implementing debug ["inner", "Inner"] []]).types.entries =
      [("app::processes_orders::inner::Inner", .declared .struct),
        ("inner::Inner", { interfaces := NameSet.ofList ["std::fmt::Debug"] })] := by
  decide +kernel

end Position

end Source
end ProcessBuild
