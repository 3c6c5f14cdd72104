/-
Type indexes: what is known of types by their full paths. Edges lead from a type to its supertype and its interfaces.
Two views of one type are merged into their least upper bound: the smaller kind, the smaller supertype and all
interfaces, where a missing kind or supertype gives way to a present one.
-/
import ProcessBuild.Json.Decode

namespace ProcessBuild

/-- how a type is declared -/
inductive TypeKind where
  | struct
  | enum
  | trait
  deriving DecidableEq, Repr

namespace TypeKind

/-- the position in the order of kinds, structures first -/
def rank : TypeKind → Nat
  | struct => 0
  | enum => 1
  | trait => 2

def min (a b : TypeKind) : TypeKind := if b.rank < a.rank then b else a

/-- whether values of the kind can be made -/
def isConcrete : TypeKind → Bool
  | trait => false
  | _ => true

def names : List (String × TypeKind) := [("struct", struct), ("enum", enum), ("trait", trait)]

def name : TypeKind → String
  | struct => "struct"
  | enum => "enum"
  | trait => "trait"

end TypeKind

/-- what is known of one type -/
structure TypeInfo where
  kind : Option TypeKind := none
  supertype : Option String := none
  interfaces : NameSet := NameSet.empty
  deriving DecidableEq

namespace TypeInfo

instance : Inhabited TypeInfo := ⟨{}⟩

def minName (a b : String) : String := if b < a then b else a

/-- what two optionals hold together -/
def join {α : Type} (f : α → α → α) : Option α → Option α → Option α
  | some a, some b => some (f a b)
  | some a, none => some a
  | none, b => b

/-- what two views of one type tell together -/
def merge (a b : TypeInfo) : TypeInfo :=
  { kind := join TypeKind.min a.kind b.kind
    supertype := join minName a.supertype b.supertype
    interfaces := a.interfaces.union b.interfaces }

/-- a declaration without edges -/
def declared (kind : TypeKind) : TypeInfo := { kind := some kind }

/-- whether values of the type can be made -/
def isConcrete (t : TypeInfo) : Bool :=
  match t.kind with
  | some k => k.isConcrete
  | none => false

/-- the names that the edges of a type lead to, the supertype first -/
def parents (t : TypeInfo) : List String := t.supertype.toList ++ t.interfaces.toList

end TypeInfo

/-- what is known of types, by full path -/
structure TypeIndex where
  types : NameMap TypeInfo
  deriving Inhabited

namespace TypeIndex

def empty : TypeIndex := ⟨NameMap.empty⟩

def insert (index : TypeIndex) (name : String) (info : TypeInfo) : TypeIndex :=
  ⟨index.types.alter name fun old => (old.getD {}).merge info⟩

/-- add every entry of another index -/
def merge (a b : TypeIndex) : TypeIndex := b.types.entries.foldl (fun acc e => acc.insert e.1 e.2) a

def get? (index : TypeIndex) (name : String) : Option TypeInfo := index.types.get? name

def contains (index : TypeIndex) (name : String) : Bool := index.types.contains name

def size (index : TypeIndex) : Nat := index.types.size

end TypeIndex
end ProcessBuild
