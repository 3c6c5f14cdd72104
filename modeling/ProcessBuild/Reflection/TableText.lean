/-
Reading reflection tables. A table is written as an object whose fields may come in any order and may be missing, or
as the list of its fields. Unknown fields are passed over; a field may not come twice. The groups are an object by
group name, where of two entries for a group the later counts.
-/
import ProcessBuild.Json.Document
import ProcessBuild.Reflection.Table

namespace ProcessBuild.ReflectionTable

open Json.Reader Json.Document

inductive Field where
  | core
  | closureRoots
  | groups
  deriving DecidableEq, Repr

namespace Field

def name : Field → String
  | core => "core"
  | closureRoots => "closureRoots"
  | groups => "groups"

def all : List Field := [core, closureRoots, groups]

def ofName? (name : String) : Option Field := all.find? (·.name = name)

end Field

/-- the groups of a table, after the brace or after a group; the fuel bounds their number -/
def readGroupsFrom : Nat → Bool → (AddonGroup → Option (List String)) → Cursor →
    Result ((AddonGroup → Option (List String)) × Cursor)
  | 0, _, _, c => plain (c.fail .endInObject)
  | fuel + 1, first, done, c => do
    match ← plain (nextKey first c) with
    | .closed c => return (done, c)
    | .part c =>
      let (k, c) ← readText c
      match AddonGroup.ofName? k with
      | none => unfit (.unknownVariant k (AddonGroup.all.map (·.name))) c
      | some g =>
        let (types, c) ← readTexts (← plain (passColon c))
        readGroupsFrom fuel false (setGroup done g types) c

def readGroups (c : Cursor) : Result ((AddonGroup → Option (List String)) × Cursor) :=
  let c := skipSpace c
  match c.rest with
  | '\x7b' :: _ => readGroupsFrom (c.rest.length + 1) true (fun _ => none) c.advance
  | _ => wrongType "a map" c

/-- the value of a field, put into a table -/
def readField (t : ReflectionTable) (c : Cursor) : Field → Result (ReflectionTable × Cursor)
  | .core => do
    let (core, c) ← readTexts c
    return ({ t with core }, c)
  | .closureRoots => do
    let (closureRoots, c) ← readTexts c
    return ({ t with closureRoots }, c)
  | .groups => do
    let (groups, c) ← readGroups c
    return ({ t with groups }, c)

/-- the fields of a table by name, after the brace or after a field; the fuel bounds their number -/
def readNamedFrom : Nat → Bool → List Field → ReflectionTable → Cursor → Result (ReflectionTable × Cursor)
  | 0, _, _, _, c => plain (c.fail .endInObject)
  | fuel + 1, first, seen, t, c => do
    match ← plain (nextKey first c) with
    | .closed c => return (t, c)
    | .part c =>
      let (k, c) ← readText c
      match Field.ofName? k with
      | none =>
        let c ← plain (passColon c)
        readNamedFrom fuel false seen t (← plain (skipValue c))
      | some f =>
        if seen.contains f then unfit (.duplicateField k) (afterKey c)
        else
          let (t, c) ← readField t (← plain (passColon c)) f
          readNamedFrom fuel false (f :: seen) t c

/-- the fields of a table in order, after the bracket or after a field -/
def readListedFrom : List Field → Bool → ReflectionTable → Cursor → Result (ReflectionTable × Cursor)
  | [], _, t, c => do return (t, ← plain (closeList c))
  | f :: rest, first, t, c => do
    match ← plain (nextItem first c) with
    | .closed c => return (t, c)
    | .part c =>
      let (t, c) ← readField t c f
      readListedFrom rest false t c

def read (c : Cursor) : Result (ReflectionTable × Cursor) :=
  let c := skipSpace c
  match c.rest with
  | '\x7b' :: _ => readNamedFrom (c.rest.length + 1) true [] {} c.advance
  | '[' :: _ => readListedFrom Field.all true {} c.advance
  | _ => wrongType "struct ReflectionTable" c

def parse (text : String) : Except DocumentError ReflectionTable := ofText read text

end ProcessBuild.ReflectionTable
