/-
The types that source text tells of. A declaration gives a type its kind; an implementation of a trait gives its type
an interface, an implementation of `Deref` the supertype that it leads to.
-/
import ProcessBuild.TypeIndex.Basic
import ProcessBuild.Source.Scope

namespace ProcessBuild

open Source

/-- what one item tells of a type, by its full name -/
abbrev TypeFact := String × TypeInfo

/-- the full names of the trait whose implementation leads to another type -/
def derefNames : List String := ["std::ops::Deref", "core::ops::Deref"]

namespace Source

def TraitImpl.fact? (scope : Scope) (i : TraitImpl) : Option TypeFact :=
  match i.negative, i.type with
  | false, some type =>
    let traitName := scope.resolve i.trait
    if derefNames.contains traitName then
      match i.targets.findSome? id with
      | some target => some (scope.resolve type, { supertype := some (scope.resolve target) })
      | none => none
    else some (scope.resolve type, { interfaces := NameSet.empty.insert traitName })
  | _, _ => none

mutual

/-- what an item tells of types -/
def Item.facts (scope : Scope) : Item → List TypeFact
  | .struct name => [(scope.localName name, .declared .struct)]
  | .enum name => [(scope.localName name, .declared .enum)]
  | .trait name supertraits =>
    [(scope.localName name, { kind := some .trait, interfaces := NameSet.ofList (supertraits.map scope.resolve) })]
  | .impl i => (i.fact? scope).toList
  | .module name items =>
    factsOfAll (Scope.ofItems scope.crateName (scope.localName name) items) items
  | .use _ _ => []
  | .other => []

def factsOfAll (scope : Scope) : List Item → List TypeFact
  | [] => []
  | item :: rest => item.facts scope ++ factsOfAll scope rest

end

end Source

namespace TypeIndex

def ofFacts (facts : List TypeFact) : TypeIndex := facts.foldl (fun index f => index.insert f.1 f.2) empty

/-- the types that the items of a file tell of; `modulePath` is the module that the file becomes -/
def ofItems (crateName modulePath : String) (items : List Item) : TypeIndex :=
  ofFacts (factsOfAll (Scope.ofItems crateName modulePath items) items)

end TypeIndex
end ProcessBuild
