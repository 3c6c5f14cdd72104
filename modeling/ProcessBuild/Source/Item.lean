/-
The items of source text as far as types are concerned: which types a module declares, which traits it implements for
which types, and which names it brings into use. Everything else is one kind of item that says nothing.
-/

namespace ProcessBuild.Source

/-- a path of names; it is absolute when a path separator comes first -/
structure Path where
  absolute : Bool
  segments : List String
  deriving DecidableEq, Repr

/-- what a use declaration brings in, below the names that lead to it -/
inductive UseTree where
  | path (name : String) (tree : UseTree)
  | name (name : String)
  | rename (name : String) (newName : String)
  | glob
  | group (trees : List UseTree)
  deriving Repr, Inhabited

/-- an implementation of a trait: the type when it is written as a path, and the definitions of its associated type
`Target` in order, each by its path if it is one -/
structure TraitImpl where
  negative : Bool
  trait : Path
  type : Option Path
  targets : List (Option Path)
  deriving Repr

inductive Item where
  | struct (name : String)
  | enum (name : String)
  | trait (name : String) (supertraits : List Path)
  | impl (impl : TraitImpl)
  | use (absolute : Bool) (tree : UseTree)
  | module (name : String) (items : List Item)
  | other
  deriving Repr, Inhabited

end ProcessBuild.Source
