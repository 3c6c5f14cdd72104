/-
Subtype queries: the types from which a chain of edges leads to a root. The search goes from the root against the
edges, level by level, and enters a type once; each round of the search that goes on finds a new type, so the number
of types bounds the rounds.
-/
import ProcessBuild.TypeIndex.Basic

namespace ProcessBuild.TypeIndex

/-- the types with an edge to a name, in order -/
def children (index : TypeIndex) (parent : String) : List String :=
  (index.types.entries.filter fun e => e.2.parents.contains parent).map Prod.fst

/-- enter the types of a list that are neither the root nor found yet; the ones entered are queued in order -/
def enter (root : String) : NameSet × List String → List String → NameSet × List String
  | st, [] => st
  | (found, queue), name :: rest =>
    if name = root ∨ name ∈ found.toList then enter root (found, queue) rest
    else enter root (found.insert name, queue ++ [name]) rest

/-- work through the queue; the fuel bounds the names that are still to be taken from it -/
def searchFrom (index : TypeIndex) (root : String) : Nat → NameSet → List String → NameSet
  | 0, found, _ => found
  | _ + 1, found, [] => found
  | fuel + 1, found, name :: queue =>
    let (found, queue) := enter root (found, queue) (index.children name)
    searchFrom index root fuel found queue

/-- the indexed types other than the root from which edges lead to the root -/
def subtypes (index : TypeIndex) (root : String) : NameSet :=
  searchFrom index root (index.size + 1) NameSet.empty [root]

def concreteSubtypes (index : TypeIndex) (root : String) : NameSet :=
  (index.subtypes root).filter fun name =>
    match index.get? name with
    | some info => info.isConcrete
    | none => false

end ProcessBuild.TypeIndex
