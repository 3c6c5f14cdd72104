/-
The index of a file, told from its items. Several views of one type are merged, so an entry has the least kind and the
least supertype that a view has and the interfaces of all views. The views come from the items of the file and of the
modules in it: declarations of types, and implementations of traits for what their paths stand for.
- `sums_ofFacts`: what an index of facts tells of a type, field by field.
- `SourceFile.mem_facts_iff`: the facts of a file are those of its items at every depth.
- `SourceFile.index_exact`: which types the index of a file tells of, and what it tells of them.
-/
import Mathlib.Data.List.Induction
import Mathlib.Order.Bounds.Basic
import ProcessBuild.Proofs.TypeIndex.ItemOrder

namespace ProcessBuild

open Source

/-! ## Least values -/

/-- an optional value is the least of a set; it is absent when the set is empty -/
def IsLeastIn {α : Type} [Preorder α] (x : Option α) (s : Set α) : Prop :=
  match x with
  | some a => IsLeast s a
  | none => s = ∅

section Least

variable {α : Type} [LinearOrder α] {f : α → α → α} {x y : Option α} {s t : Set α}

theorem IsLeastIn.eq_some_iff (h : IsLeastIn x s) {a : α} : x = some a ↔ IsLeast s a := by
  cases x with
  | none =>
    subst h
    exact ⟨fun absent => (nomatch absent), fun least => absurd least.1 (Set.notMem_empty a)⟩
  | some b => exact ⟨fun same => Option.some.inj same ▸ h, fun least => congrArg some (h.unique least)⟩

theorem IsLeastIn.eq_none_iff (h : IsLeastIn x s) : x = none ↔ s = ∅ := by
  cases x with
  | none => exact ⟨fun _ => h, fun _ => rfl⟩
  | some a => exact ⟨fun known => (nomatch known), fun empty => absurd h.1 (empty ▸ Set.notMem_empty a)⟩

/-- what two optionals hold together is the least of both sets -/
theorem IsLeastIn.join (isMin : ∀ a b, f a b = min a b) (hx : IsLeastIn x s) (hy : IsLeastIn y t) :
    IsLeastIn (TypeInfo.join f x y) (s ∪ t) := by
  cases x with
  | none =>
    subst hx
    rw [Set.empty_union]
    exact hy
  | some a =>
    cases y with
    | none =>
      subst hy
      rw [Set.union_empty]
      exact hx
    | some b =>
      show IsLeast (s ∪ t) (f a b)
      rw [isMin]
      exact hx.union hy

end Least

namespace TypeKind

theorem ctorIdx_injective : Function.Injective TypeKind.ctorIdx := by
  intro a b same
  cases a <;> cases b <;> simp_all [TypeKind.ctorIdx]

/-- structures come before enumerations, and these before traits -/
instance : LinearOrder TypeKind := LinearOrder.lift' TypeKind.ctorIdx ctorIdx_injective

/-- the earlier of two kinds is their minimum in the order of kinds -/
theorem min_eq (a b : TypeKind) : TypeKind.min a b = Min.min a b := by
  cases a <;> cases b <;> rfl

/-- the kinds of which values can be made come first -/
theorem isConcrete_iff_le {kind : TypeKind} : kind.isConcrete = true ↔ kind ≤ .enum := by
  cases kind <;> decide

end TypeKind

/-! ## Views of one type -/

/-- what is known of a type is what some facts tell of it together -/
structure Sums (info : TypeInfo) (facts : List TypeFact) (name : String) : Prop where
  kind : IsLeastIn info.kind {kind | ∃ t, (name, t) ∈ facts ∧ t.kind = some kind}
  supertype : IsLeastIn info.supertype {base | ∃ t, (name, t) ∈ facts ∧ t.supertype = some base}
  interfaces : ∀ trait, trait ∈ info.interfaces ↔ ∃ t, (name, t) ∈ facts ∧ trait ∈ t.interfaces

namespace Sums

variable {info t : TypeInfo} {facts : List TypeFact} {name other : String}

/-- nothing is known of a type of which no fact tells -/
theorem nothing (absent : ∀ t, (name, t) ∉ facts) : Sums {} facts name where
  kind := Set.eq_empty_of_forall_notMem fun _ told => absurd told.choose_spec.1 (absent _)
  supertype := Set.eq_empty_of_forall_notMem fun _ told => absurd told.choose_spec.1 (absent _)
  interfaces _ := ⟨fun isMember => absurd isMember (NameSet.not_mem_empty _), fun told =>
    absurd told.choose_spec.1 (absent _)⟩

/-- one more view of a type is merged with what the others tell -/
theorem merge (h : Sums info facts name) (t : TypeInfo) : Sums (info.merge t) (facts ++ [(name, t)]) name := by
  -- a fact of the longer list that is about the type is one of the others or the last one
  have split : ∀ P : TypeInfo → Prop, (∃ u, (name, u) ∈ facts ++ [(name, t)] ∧ P u) ↔
      (∃ u, (name, u) ∈ facts ∧ P u) ∨ P t := by
    intro P
    simp only [List.mem_append, List.mem_singleton, Prod.mk.injEq, true_and, or_and_right, exists_or, exists_eq_left]
  have alone : ∀ {α : Type} [LinearOrder α] (x : Option α), IsLeastIn x {a | x = some a} := by
    intro α _ x
    cases x with
    | none => exact Set.eq_empty_of_forall_notMem fun _ absent => nomatch absent
    | some a => exact ⟨rfl, fun b same => (Option.some.inj same).le⟩
  refine ⟨?_, ?_, fun trait => ?_⟩
  · simp only [split]
    exact h.kind.join TypeKind.min_eq (alone t.kind)
  · simp only [split]
    exact h.supertype.join TypeInfo.minName_eq (alone t.supertype)
  · rw [split, ← h.interfaces]
    exact NameSet.mem_union

/-- a view of another type tells nothing of a type -/
theorem skip (h : Sums info facts name) (isOther : name ≠ other) (t : TypeInfo) :
    Sums info (facts ++ [(other, t)]) name := by
  have same : ∀ u, (name, u) ∈ facts ++ [(other, t)] ↔ (name, u) ∈ facts := by
    intro u
    simp only [List.mem_append, List.mem_singleton, Prod.mk.injEq, isOther, false_and, or_false]
  refine ⟨?_, ?_, fun trait => ?_⟩
  · simp only [same]
    exact h.kind
  · simp only [same]
    exact h.supertype
  · simp only [same]
    exact h.interfaces trait

end Sums

namespace TypeIndex

/-- an index of facts has entries for the types that they are about -/
theorem get?_ofFacts_eq_none_iff {facts : List TypeFact} {name : String} :
    (ofFacts facts).get? name = none ↔ ∀ t, (name, t) ∉ facts := by
  constructor
  · intro absent t isFact
    exact get?_ofFacts_ne_none isFact absent
  · intro absent
    show (empty.insertAll facts).get? name = none
    rw [get?_insertAll, foldl_learn_of_ne]
    · rfl
    · rintro ⟨other, t⟩ isFact rfl
      exact absent t isFact

theorem sums_getD (facts : List TypeFact) (name : String) : Sums (((ofFacts facts).get? name).getD {}) facts name := by
  induction facts using List.reverseRecOn with
  | nil => exact .nothing fun _ => List.not_mem_nil
  | append_singleton facts f ih =>
    have step : ofFacts (facts ++ [f]) = (ofFacts facts).insert f.1 f.2 := List.foldl_concat ..
    rw [step, get?_insert]
    by_cases same : name = f.1
    · subst same
      rw [if_pos rfl]
      exact ih.merge f.2
    · rw [if_neg same]
      exact ih.skip same f.2

/-- **What an index of facts tells of a type** is what its facts tell of it together. -/
theorem sums_ofFacts {facts : List TypeFact} {name : String} {info : TypeInfo}
    (known : (ofFacts facts).get? name = some info) : Sums info facts name := by
  have sums := sums_getD facts name
  rwa [known] at sums

end TypeIndex

namespace Source

/-! ## Items of a file -/

/-- what an item tells of types by itself, the items of a module left out -/
def Item.ownFacts (scope : Scope) : Item → List TypeFact
  | .module _ _ => []
  | item => item.facts scope

theorem ownFacts_subset {scope : Scope} {item : Item} : item.ownFacts scope ⊆ item.facts scope := by
  cases item with
  | module _ _ => exact List.nil_subset _
  | _ => exact List.Subset.refl _

section Inside

variable {crateName modulePath : String} {items last : List Item} {names : List String} {item : Item} {fact : TypeFact}

/-- what an item of a module below tells is told among what the items tell -/
theorem mem_facts_of_inside (inside : Inside items names last) (isItem : item ∈ last)
    (own : fact ∈ item.ownFacts (Scope.ofItems crateName (nameBelow modulePath names) last)) :
    fact ∈ factsOfAll (Scope.ofItems crateName modulePath items) items := by
  induction inside generalizing modulePath with
  | here items => exact facts_subset _ isItem (ownFacts_subset own)
  | module isModule _ ih =>
    refine facts_subset _ isModule ?_
    rw [facts_module]
    exact ih isItem own

/-- what items tell is told by an item among them or in a module below -/
theorem exists_inside_of_mem_facts (items : List Item) (modulePath : String)
    (isFact : fact ∈ factsOfAll (Scope.ofItems crateName modulePath items) items) :
    ∃ names last item, Inside items names last ∧ item ∈ last ∧
      fact ∈ item.ownFacts (Scope.ofItems crateName (nameBelow modulePath names) last) := by
  rw [factsOfAll_eq] at isFact
  obtain ⟨item, isItem, told⟩ := List.mem_flatMap.1 isFact
  cases item with
  | module name inner =>
    have smaller : sizeOf inner < sizeOf items := by
      have ofModule : sizeOf inner < sizeOf (Item.module name inner) := by simp +arith
      exact ofModule.trans (List.sizeOf_lt_of_mem isItem)
    rw [facts_module] at told
    obtain ⟨names, last, item, inside, inLast, own⟩ :=
      exists_inside_of_mem_facts inner (modulePath ++ "::" ++ name) told
    exact ⟨name :: names, last, item, .module isItem inside, inLast, own⟩
  | _ => exact ⟨[], items, _, .here items, isItem, told⟩
termination_by sizeOf items

end Inside

/-- what an implementation tells: it is positive and for a type that is written as a path, and it gives this type its
trait, or the first target that is a path if the trait is one that leads to another type -/
theorem fact?_eq_some_iff {scope : Scope} {i : TraitImpl} {name : String} {t : TypeInfo} :
    i.fact? scope = some (name, t) ↔
      i.negative = false ∧ (∃ type, i.type = some type ∧ scope.resolve type = name) ∧
        (¬IsDeref (scope.resolve i.trait) ∧ t = { interfaces := NameSet.empty.insert (scope.resolve i.trait) } ∨
          IsDeref (scope.resolve i.trait) ∧
            ∃ target, i.targets.findSome? id = some target ∧ t = { supertype := some (scope.resolve target) }) := by
  unfold TraitImpl.fact?
  split
  · rename_i type positive isPath
    simp only [positive, isPath, Option.some.injEq, exists_eq_left', true_and, contains_derefNames_iff]
    by_cases deref : IsDeref (scope.resolve i.trait)
    · simp only [deref, if_true, not_true, false_and, false_or, true_and]
      cases i.targets.findSome? id with
      | none => simp
      | some target => simp [eq_comm]
    · simp [deref, eq_comm]
  · rename_i other
    refine ⟨fun absent => (nomatch absent), ?_⟩
    rintro ⟨positive, ⟨type, isPath, -⟩, -⟩
    exact absurd isPath (other type positive)

/-- a file of source text: its crate, the module that it becomes and its items -/
structure SourceFile where
  crateName : String
  modulePath : String
  items : List Item

namespace SourceFile

def index (f : SourceFile) : TypeIndex := .ofItems f.crateName f.modulePath f.items

/-- the scope of the module of a file that names lead to, by its items -/
def scope (f : SourceFile) (names : List String) (items : List Item) : Scope :=
  .ofItems f.crateName (nameBelow f.modulePath names) items

/-- an item stands in a file, at the top or in a module at any depth; the scope is that of the module -/
inductive Holds (f : SourceFile) : Scope → Item → Prop where
  | intro {names : List String} {last : List Item} {item : Item} (inside : Inside f.items names last)
      (isItem : item ∈ last) : f.Holds (f.scope names last) item

/-- a type is declared in a file, at the top or in a module at any depth, under its full name -/
inductive Declares (f : SourceFile) : String → TypeKind → Prop where
  | struct {names : List String} {last : List Item} {type : String} (inside : Inside f.items names last)
      (isItem : .struct type ∈ last) : f.Declares (nameBelow f.modulePath (names ++ [type])) .struct
  | enum {names : List String} {last : List Item} {type : String} (inside : Inside f.items names last)
      (isItem : .enum type ∈ last) : f.Declares (nameBelow f.modulePath (names ++ [type])) .enum
  | trait {names : List String} {last : List Item} {type : String} {supertraits : List Path}
      (inside : Inside f.items names last) (isItem : .trait type supertraits ∈ last) :
      f.Declares (nameBelow f.modulePath (names ++ [type])) .trait

/-- a trait is implemented in a file, not ruled out, for what the path of a type stands for -/
structure Implements (f : SourceFile) (scope : Scope) (i : TraitImpl) (name : String) : Prop where
  holds : f.Holds scope (.impl i)
  positive : i.negative = false
  isFor : ∃ type, i.type = some type ∧ scope.resolve type = name

/-- a type has an interface: a supertrait of its declaration, or a trait that is implemented for it and leads to no
other type -/
inductive HasInterface (f : SourceFile) : String → String → Prop where
  | supertrait {names : List String} {last : List Item} {type : String} {supertraits : List Path} {trait : Path}
      (inside : Inside f.items names last) (isItem : .trait type supertraits ∈ last)
      (isSupertrait : trait ∈ supertraits) :
      f.HasInterface (nameBelow f.modulePath (names ++ [type])) ((f.scope names last).resolve trait)
  | implemented {scope : Scope} {i : TraitImpl} {name : String} (implements : f.Implements scope i name)
      (noDeref : ¬IsDeref (scope.resolve i.trait)) : f.HasInterface name (scope.resolve i.trait)

/-- a type leads to another one: the first target that is a path in an implementation for it of a trait that leads to
other types -/
inductive LeadsTo (f : SourceFile) : String → String → Prop where
  | implemented {scope : Scope} {i : TraitImpl} {name : String} {target : Path} (implements : f.Implements scope i name)
      (deref : IsDeref (scope.resolve i.trait)) (isTarget : i.targets.findSome? id = some target) :
      f.LeadsTo name (scope.resolve target)

variable {f : SourceFile} {name : String}

theorem localName_scope (names : List String) (last : List Item) (type : String) :
    (f.scope names last).localName type = nameBelow f.modulePath (names ++ [type]) := by
  rw [scope, Scope.localName_ofItems, nameBelow, nameBelow, List.foldl_append]
  rfl

def facts (f : SourceFile) : List TypeFact := factsOfAll (.ofItems f.crateName f.modulePath f.items) f.items

theorem mem_facts_iff {fact : TypeFact} :
    fact ∈ f.facts ↔ ∃ scope item, f.Holds scope item ∧ fact ∈ item.ownFacts scope := by
  constructor
  · intro isFact
    obtain ⟨names, last, item, inside, isItem, own⟩ := exists_inside_of_mem_facts f.items f.modulePath isFact
    exact ⟨_, item, .intro inside isItem, own⟩
  · rintro ⟨_, _, ⟨inside, isItem⟩, own⟩
    exact mem_facts_of_inside inside isItem own

/-- the facts of a file, by the items that tell them -/
inductive IsFact (f : SourceFile) : String → TypeInfo → Prop where
  | struct {scope : Scope} {type : String} (holds : f.Holds scope (.struct type)) :
      f.IsFact (scope.localName type) (.declared .struct)
  | enum {scope : Scope} {type : String} (holds : f.Holds scope (.enum type)) :
      f.IsFact (scope.localName type) (.declared .enum)
  | trait {scope : Scope} {type : String} {supertraits : List Path} (holds : f.Holds scope (.trait type supertraits)) :
      f.IsFact (scope.localName type)
        { kind := some .trait, interfaces := NameSet.ofList (supertraits.map scope.resolve) }
  | interface {scope : Scope} {i : TraitImpl} {name : String} (implements : f.Implements scope i name)
      (noDeref : ¬IsDeref (scope.resolve i.trait)) :
      f.IsFact name { interfaces := NameSet.empty.insert (scope.resolve i.trait) }
  | supertype {scope : Scope} {i : TraitImpl} {name : String} {target : Path} (implements : f.Implements scope i name)
      (deref : IsDeref (scope.resolve i.trait)) (isTarget : i.targets.findSome? id = some target) :
      f.IsFact name { supertype := some (scope.resolve target) }

theorem isFact_of_holds {scope : Scope} {item : Item} {t : TypeInfo} (holds : f.Holds scope item)
    (own : (name, t) ∈ item.ownFacts scope) : f.IsFact name t := by
  have told := ownFacts_subset own
  -- an item tells at most one fact of its own, so naming the item names the fact; imports and modules tell none
  cases item with
  | struct type =>
    rw [Item.facts, List.mem_singleton, Prod.mk.injEq] at told
    obtain ⟨rfl, rfl⟩ := told
    exact .struct holds
  | enum type =>
    rw [Item.facts, List.mem_singleton, Prod.mk.injEq] at told
    obtain ⟨rfl, rfl⟩ := told
    exact .enum holds
  | trait type supertraits =>
    rw [Item.facts, List.mem_singleton, Prod.mk.injEq] at told
    obtain ⟨rfl, rfl⟩ := told
    exact .trait holds
  | impl i =>
    rw [Item.facts, Option.mem_toList, fact?_eq_some_iff] at told
    obtain ⟨positive, isFor, ⟨noDeref, rfl⟩ | ⟨deref, target, isTarget, rfl⟩⟩ := told
    · exact .interface ⟨holds, positive, isFor⟩ noDeref
    · exact .supertype ⟨holds, positive, isFor⟩ deref isTarget
  | use absolute tree =>
    rw [Item.facts] at told
    cases told
  | module type inner => cases own
  | other =>
    rw [Item.facts] at told
    cases told

/-- an implementation tells a fact of the file -/
theorem mem_facts_of_implements {scope : Scope} {i : TraitImpl} {t : TypeInfo} (implements : f.Implements scope i name)
    (told : i.fact? scope = some (name, t)) : (name, t) ∈ f.facts := by
  refine mem_facts_iff.2 ⟨scope, .impl i, implements.holds, ?_⟩
  show (name, t) ∈ (Item.impl i).facts scope
  rw [Item.facts, Option.mem_toList, told]

/-- **The facts of a file** are those that its items tell. -/
theorem isFact_iff {t : TypeInfo} : (name, t) ∈ f.facts ↔ f.IsFact name t := by
  constructor
  · intro isFact
    obtain ⟨scope, item, holds, own⟩ := mem_facts_iff.1 isFact
    exact isFact_of_holds holds own
  · intro isFact
    cases isFact with
    | struct holds => exact mem_facts_iff.2 ⟨_, _, holds, by simp [Item.ownFacts, Item.facts]⟩
    | enum holds => exact mem_facts_iff.2 ⟨_, _, holds, by simp [Item.ownFacts, Item.facts]⟩
    | trait holds => exact mem_facts_iff.2 ⟨_, _, holds, by simp [Item.ownFacts, Item.facts]⟩
    | interface implements noDeref =>
      exact mem_facts_of_implements implements
        (fact?_eq_some_iff.2 ⟨implements.positive, implements.isFor, .inl ⟨noDeref, rfl⟩⟩)
    | supertype implements deref isTarget =>
      exact mem_facts_of_implements implements
        (fact?_eq_some_iff.2 ⟨implements.positive, implements.isFor, .inr ⟨deref, _, isTarget, rfl⟩⟩)

/-! ## Fields of facts -/

theorem kind_told_iff {kind : TypeKind} : (∃ t, (name, t) ∈ f.facts ∧ t.kind = some kind) ↔ f.Declares name kind := by
  constructor
  · rintro ⟨t, isFact, known⟩
    -- only declarations tell a kind
    cases isFact_iff.1 isFact with
    | struct holds =>
      obtain rfl := Option.some.inj known
      obtain ⟨inside, isItem⟩ := holds
      rw [localName_scope]
      exact .struct inside isItem
    | enum holds =>
      obtain rfl := Option.some.inj known
      obtain ⟨inside, isItem⟩ := holds
      rw [localName_scope]
      exact .enum inside isItem
    | trait holds =>
      obtain rfl := Option.some.inj known
      obtain ⟨inside, isItem⟩ := holds
      rw [localName_scope]
      exact .trait inside isItem
    | interface _ _ => cases known
    | supertype _ _ _ => cases known
  · intro declares
    cases declares with
    | struct inside isItem =>
      rw [← localName_scope]
      exact ⟨_, isFact_iff.2 (.struct (.intro inside isItem)), rfl⟩
    | enum inside isItem =>
      rw [← localName_scope]
      exact ⟨_, isFact_iff.2 (.enum (.intro inside isItem)), rfl⟩
    | trait inside isItem =>
      rw [← localName_scope]
      exact ⟨_, isFact_iff.2 (.trait (.intro inside isItem)), rfl⟩

theorem interface_told_iff {trait : String} :
    (∃ t, (name, t) ∈ f.facts ∧ trait ∈ t.interfaces) ↔ f.HasInterface name trait := by
  constructor
  · rintro ⟨t, isFact, isMember⟩
    cases isFact_iff.1 isFact with
    | struct _ => exact absurd isMember (NameSet.not_mem_empty trait)
    | enum _ => exact absurd isMember (NameSet.not_mem_empty trait)
    | trait holds =>
      obtain ⟨inside, isItem⟩ := holds
      obtain ⟨path, isSupertrait, rfl⟩ := List.mem_map.1 (NameSet.mem_ofList.1 isMember)
      rw [localName_scope]
      exact .supertrait inside isItem isSupertrait
    | interface implements noDeref =>
      obtain rfl := (NameSet.mem_insert.1 isMember).resolve_right (NameSet.not_mem_empty trait)
      exact .implemented implements noDeref
    | supertype _ _ _ => exact absurd isMember (NameSet.not_mem_empty trait)
  · intro has
    cases has with
    | supertrait inside isItem isSupertrait =>
      rw [← localName_scope]
      exact ⟨_, isFact_iff.2 (.trait (.intro inside isItem)), NameSet.mem_ofList.2 (List.mem_map_of_mem isSupertrait)⟩
    | implemented implements noDeref =>
      exact ⟨_, isFact_iff.2 (.interface implements noDeref), NameSet.mem_insert.2 (.inl rfl)⟩

theorem supertype_told_iff {base : String} :
    (∃ t, (name, t) ∈ f.facts ∧ t.supertype = some base) ↔ f.LeadsTo name base := by
  constructor
  · rintro ⟨t, isFact, known⟩
    cases isFact_iff.1 isFact with
    | struct _ => cases known
    | enum _ => cases known
    | trait _ => cases known
    | interface _ _ => cases known
    | supertype implements deref isTarget =>
      obtain rfl := Option.some.inj known
      exact .implemented implements deref isTarget
  · intro leads
    cases leads with
    | implemented implements deref isTarget =>
      exact ⟨_, isFact_iff.2 (.supertype implements deref isTarget), rfl⟩

/-- every fact of a file tells a field of its type -/
theorem exists_fact_iff : (∃ t, (name, t) ∈ f.facts) ↔
    (∃ kind, f.Declares name kind) ∨ (∃ trait, f.HasInterface name trait) ∨ ∃ base, f.LeadsTo name base := by
  constructor
  · rintro ⟨t, isFact⟩
    cases isFact_iff.1 isFact with
    | struct _ => exact .inl ⟨_, kind_told_iff.1 ⟨_, isFact, rfl⟩⟩
    | enum _ => exact .inl ⟨_, kind_told_iff.1 ⟨_, isFact, rfl⟩⟩
    | trait _ => exact .inl ⟨_, kind_told_iff.1 ⟨_, isFact, rfl⟩⟩
    | interface _ _ => exact .inr (.inl ⟨_, interface_told_iff.1 ⟨_, isFact, NameSet.mem_insert.2 (.inl rfl)⟩⟩)
    | supertype _ _ _ => exact .inr (.inr ⟨_, supertype_told_iff.1 ⟨_, isFact, rfl⟩⟩)
  · rintro (⟨_, declares⟩ | ⟨_, has⟩ | ⟨_, leads⟩)
    · exact (kind_told_iff.2 declares).imp fun _ told => told.1
    · exact (interface_told_iff.2 has).imp fun _ told => told.1
    · exact (supertype_told_iff.2 leads).imp fun _ told => told.1

/-- **The entry of a type** holds the least kind that the file declares it with, the traits that the file gives it and
the least type that the file leads from it to. -/
theorem entry_exact {info : TypeInfo} (known : f.index.get? name = some info) :
    IsLeastIn info.kind {kind | f.Declares name kind} ∧ (∀ trait, trait ∈ info.interfaces ↔ f.HasInterface name trait) ∧
      IsLeastIn info.supertype {base | f.LeadsTo name base} := by
  have sums : Sums info f.facts name := TypeIndex.sums_ofFacts known
  obtain ⟨kind, supertype, interfaces⟩ := sums
  simp only [kind_told_iff] at kind
  simp only [supertype_told_iff] at supertype
  exact ⟨kind, fun trait => (interfaces trait).trans interface_told_iff, supertype⟩

theorem exists_entry_iff : (∃ info, f.index.get? name = some info) ↔
    (∃ kind, f.Declares name kind) ∨ (∃ trait, f.HasInterface name trait) ∨ ∃ base, f.LeadsTo name base := by
  rw [← exists_fact_iff, ← Option.ne_none_iff_exists', ← not_iff_not, not_not, not_exists]
  show (TypeIndex.ofFacts f.facts).get? name = none ↔ _
  exact TypeIndex.get?_ofFacts_eq_none_iff

/-- the type of an entry without a kind has an implementation -/
theorem exists_implements {info : TypeInfo} (known : f.index.get? name = some info) (unknown : info.kind = none) :
    ∃ scope i, f.Implements scope i name := by
  have none : ∀ kind, ¬f.Declares name kind :=
    Set.eq_empty_iff_forall_notMem.1 ((entry_exact known).1.eq_none_iff.1 unknown)
  rcases exists_entry_iff.1 ⟨info, known⟩ with ⟨kind, declares⟩ | ⟨trait, has⟩ | ⟨base, leads⟩
  · exact absurd declares (none kind)
  · cases has with
    | supertrait inside isItem _ => exact absurd (.trait inside isItem) (none .trait)
    | implemented implements _ => exact ⟨_, _, implements⟩
  · cases leads with
    | implemented implements _ _ => exact ⟨_, _, implements⟩

theorem exists_kind_iff : (∃ info kind, f.index.get? name = some info ∧ info.kind = some kind) ↔
    ∃ kind, f.Declares name kind := by
  constructor
  · rintro ⟨info, kind, known, hasKind⟩
    exact ⟨kind, ((entry_exact known).1.eq_some_iff.1 hasKind).1⟩
  · rintro ⟨kind, declares⟩
    obtain ⟨info, known⟩ := exists_entry_iff.2 (.inl ⟨kind, declares⟩)
    have declared : info.kind ≠ none := fun unknown =>
      Set.eq_empty_iff_forall_notMem.1 ((entry_exact known).1.eq_none_iff.1 unknown) kind declares
    obtain ⟨least, hasKind⟩ := Option.ne_none_iff_exists'.1 declared
    exact ⟨info, least, known, hasKind⟩

/-- **A type is concrete** when the file declares it as a structure or an enumeration. -/
theorem exists_concrete_iff : (∃ info, f.index.get? name = some info ∧ info.isConcrete = true) ↔
    f.Declares name .struct ∨ f.Declares name .enum := by
  have concrete : ∀ info : TypeInfo, info.isConcrete = true ↔ ∃ kind, info.kind = some kind ∧ kind ≤ .enum := by
    intro info
    unfold TypeInfo.isConcrete
    cases info.kind with
    | none => simp
    | some kind => simp [TypeKind.isConcrete_iff_le]
  constructor
  · rintro ⟨info, known, isConcrete⟩
    obtain ⟨kind, hasKind, early⟩ := (concrete info).1 isConcrete
    have declares : f.Declares name kind := ((entry_exact known).1.eq_some_iff.1 hasKind).1
    cases kind with
    | struct => exact .inl declares
    | enum => exact .inr declares
    | trait => exact absurd early (by decide)
  · intro declares
    obtain ⟨kind, declared, early⟩ : ∃ kind, f.Declares name kind ∧ kind ≤ .enum := by
      rcases declares with isStruct | isEnum
      · exact ⟨.struct, isStruct, by decide⟩
      · exact ⟨.enum, isEnum, le_rfl⟩
    obtain ⟨info, least, known, hasKind⟩ := exists_kind_iff.2 ⟨kind, declared⟩
    have bound := ((entry_exact known).1.eq_some_iff.1 hasKind).2 declared
    exact ⟨info, known, (concrete info).2 ⟨least, hasKind, bound.trans early⟩⟩

/-- **The index of a file is exact.** It has an entry for the types that the file declares, gives an interface or leads
to another type, and for no others. The types of known kind are those that the file declares, and the concrete ones
those that it declares as structures or enumerations. An entry has the least kind that its type is declared with, and
one without a kind is of a type that an implementation is for; its interfaces are the supertraits of the declarations
of the type and the traits that are implemented for it and lead to no other type; its supertype is the least of the
types that it leads to. -/
theorem index_exact (f : SourceFile) (name : String) :
    ((∃ info, f.index.get? name = some info) ↔
      (∃ kind, f.Declares name kind) ∨ (∃ trait, f.HasInterface name trait) ∨ ∃ base, f.LeadsTo name base) ∧
    ((∃ info kind, f.index.get? name = some info ∧ info.kind = some kind) ↔ ∃ kind, f.Declares name kind) ∧
    ((∃ info, f.index.get? name = some info ∧ info.isConcrete = true) ↔
      f.Declares name .struct ∨ f.Declares name .enum) ∧
    ∀ info, f.index.get? name = some info →
      IsLeastIn info.kind {kind | f.Declares name kind} ∧
      (info.kind = none → ∃ scope i, f.Implements scope i name) ∧
      (∀ trait, trait ∈ info.interfaces ↔ f.HasInterface name trait) ∧
      IsLeastIn info.supertype {base | f.LeadsTo name base} := by
  refine ⟨exists_entry_iff, exists_kind_iff, exists_concrete_iff, fun info known => ?_⟩
  obtain ⟨kind, interfaces, supertype⟩ := entry_exact known
  exact ⟨kind, exists_implements known, interfaces, supertype⟩

/-- a type that is declared twice and leads to two others, one that is only implemented for, and forms that tell
nothing -/
example :
    let deref (target : Option Path) : Item :=
      .impl ⟨false, ⟨false, ["std", "ops", "Deref"]⟩, some ⟨false, ["Order"]⟩, [target]⟩
    let file : SourceFile := ⟨"app", "app::orders", [
      deref (some ⟨false, ["Sent"]⟩), .trait "Order" [⟨false, ["Clone"]⟩], .enum "Order",
      deref (some ⟨false, ["Paid"]⟩), deref none, .impl ⟨true, ⟨false, ["Send"]⟩, some ⟨false, ["Order"]⟩, []⟩,
      .impl ⟨false, ⟨false, ["Send"]⟩, none, []⟩, .impl ⟨false, ⟨true, ["rt", "Told"]⟩, some ⟨false, ["Else"]⟩, []⟩]⟩
    file.index.types.entries = [
      ("app::orders::Else", { interfaces := NameSet.ofList ["rt::Told"] }),
      ("app::orders::Order", {
        kind := some .enum
        supertype := some "app::orders::Paid"
        interfaces := NameSet.ofList ["app::orders::Clone"] })] := by
  decide +kernel

end SourceFile
end Source
end ProcessBuild
