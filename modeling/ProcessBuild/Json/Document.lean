/-
Reading a text as a value of a known type. Such a text can be refused for two reasons: it is not JSON, or it is JSON
of another type. The type is looked at while the text is read, so whichever fault comes first in the text is reported,
with its place.
-/
import ProcessBuild.Json.Decode
import ProcessBuild.Json.Skip

namespace ProcessBuild

/-- why a text is not what is expected of it -/
inductive DocumentFault where
  | notJson (fault : JsonFault)
  | unfit (fault : DecodeFault)
  deriving DecidableEq, Repr

def DocumentFault.message : DocumentFault → String
  | notJson fault => fault.message
  | unfit fault => fault.message

structure DocumentError where
  fault : DocumentFault
  place : TextPlace
  deriving DecidableEq, Repr

def DocumentError.message (e : DocumentError) : String := e.fault.message ++ e.place.suffix

namespace Json.Document

open Reader

/-- what reading a part of a document yields -/
abbrev Result := Except DocumentError

/-- a step that looks at the text alone -/
def plain {α : Type} (o : Reader.Outcome α) : Result α := o.mapError fun e => ⟨.notJson e.fault, e.place⟩

/-- a fault of the type, where the reader stands -/
def unfit {α : Type} (f : DecodeFault) (c : Cursor) : Result α := .error ⟨.unfit f, c.place⟩

/-- the fault that a value has another type: before a bracket, or after a value without one -/
def wrongType {α : Type} (expected : String) (c : Cursor) : Result α :=
  match c.rest with
  | '[' :: _ => unfit (.invalidType .sequence expected) c
  | '\x7b' :: _ => unfit (.invalidType .map expected) c
  | _ => do
    let (v, c) ← plain (readValue (c.rest.length + 1) 1 c)
    unfit (.invalidType (Decode.found v) expected) c

def readText (c : Cursor) : Result (String × Cursor) :=
  let c := skipSpace c
  match c.rest with
  | '"' :: _ => plain (readString (c.rest.length + 1) c.advance)
  | _ => wrongType "a string" c

/-- the strings of a list, after its bracket or after a string; the fuel bounds their number -/
def readTextsFrom : Nat → Bool → List String → Cursor → Result (List String × Cursor)
  | 0, _, _, c => plain (c.fail .endInList)
  | fuel + 1, first, done, c => do
    match ← plain (nextItem first c) with
    | .closed c => return (done.reverse, c)
    | .part c =>
      let (s, c) ← readText c
      readTextsFrom fuel false (s :: done) c

def readTexts (c : Cursor) : Result (List String × Cursor) :=
  let c := skipSpace c
  match c.rest with
  | '[' :: _ => readTextsFrom (c.rest.length + 1) true [] c.advance
  | _ => wrongType "a sequence" c

/-- the end of a list that takes no more elements -/
def closeList (c : Cursor) : Reader.Outcome Cursor :=
  let c := skipSpace c
  match c.rest with
  | [] => c.failAhead .endInList
  | ']' :: _ => .ok c.advance
  | ',' :: _ =>
    let c := skipSpace c.advance
    match c.rest with
    | ']' :: _ => c.failAhead .trailingComma
    | _ => c.failAhead .trailingCharacters
  | _ => c.failAhead .trailingCharacters

/-- the place of a key that came before: the reader looks on for the end of its object -/
def afterKey (c : Cursor) : Cursor :=
  let c := skipSpace c
  match c.rest with
  | '\x7d' :: _ => c.advance
  | _ => c

def ofText {α : Type} (f : Cursor → Result (α × Cursor)) (text : String) : Result α := do
  let (a, c) ← f ⟨text.toList, ⟨1, 0⟩⟩
  let c := skipSpace c
  match c.rest with
  | [] => return a
  | _ => plain (c.failAhead .trailingCharacters)

end Json.Document
end ProcessBuild
