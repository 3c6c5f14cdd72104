/-
Decoding JSON values into domain types, and the faults of decoding. The members of an object are looked at in
ascending key order, so of several bad members the first in that order is the fault; only then are required members
that are absent reported, in the order in which the type declares its fields. A structure may also be written as the
list of its fields in that order; trailing fields with a default may be left out.
-/
import ProcessBuild.Json.Writer
import ProcessBuild.Names.NameMap
import ProcessBuild.Names.NameSet

namespace ProcessBuild

open Number (Binary64)

/-- what stood in the place of an expected value -/
inductive Found where
  | null
  | bool (b : Bool)
  | int (i : Int)
  | float (x : Binary64)
  | string (s : String)
  | sequence
  | map
  deriving DecidableEq, Repr

/-- why a value cannot be decoded -/
inductive DecodeFault where
  | invalidType (found : Found) (expected : String)
  | invalidValue (found : Found) (expected : String)
  | invalidLength (length : Nat) (expected : String)
  | missingField (name : String)
  | duplicateField (name : String)
  | unknownVariant (name : String) (known : List String)
  deriving DecidableEq, Repr

def Found.describe : Found → String
  | .null => "null"
  | .bool b => "boolean `" ++ (if b then "true" else "false") ++ "`"
  | .int i => "integer `" ++ String.ofList (JsonNumber.intText i) ++ "`"
  | .float x => "floating point `" ++ String.ofList (JsonNumber.floatText x) ++ "`"
  | .string s => "string " ++ Text.debug s
  | .sequence => "sequence"
  | .map => "map"

def backquoted (s : String) : String := "`" ++ s ++ "`"

/-- the words for a choice of names -/
def oneOf : List String → String
  | [] => "there are no variants"
  | [a] => "expected " ++ backquoted a
  | [a, b] => "expected " ++ backquoted a ++ " or " ++ backquoted b
  | names => "expected one of " ++ String.intercalate ", " (names.map backquoted)

def DecodeFault.message : DecodeFault → String
  | .invalidType found expected => "invalid type: " ++ found.describe ++ ", expected " ++ expected
  | .invalidValue found expected => "invalid value: " ++ found.describe ++ ", expected " ++ expected
  | .invalidLength n expected => "invalid length " ++ toString n ++ ", expected " ++ expected
  | .missingField name => "missing field " ++ backquoted name
  | .duplicateField name => "duplicate field " ++ backquoted name
  | .unknownVariant name [] => "unknown variant " ++ backquoted name ++ ", there are no variants"
  | .unknownVariant name known => "unknown variant " ++ backquoted name ++ ", " ++ oneOf known

/-- the result of decoding -/
abbrev Decoded := Except DecodeFault

namespace Decode

/-- how a value reached the decoder: as a document, or set aside while the kind of its owner was looked for -/
inductive Origin where
  | document
  | buffered
  deriving DecidableEq, Repr

/-- what a value is, for a fault -/
def found : Json → Found
  | .null => .null
  | .bool b => .bool b
  | .number (.int i) => .int i
  | .number (.float x) => .float x
  | .string s => .string s
  | .array _ => .sequence
  | .object _ => .map

def wrongType {α : Type} (v : Json) (expected : String) : Decoded α := .error (.invalidType (found v) expected)

def string : Json → Decoded String
  | .string s => .ok s
  | v => wrongType v "a string"

def path : Json → Decoded String
  | .string s => .ok s
  | v => wrongType v "path string"

def bool : Json → Decoded Bool
  | .bool b => .ok b
  | v => wrongType v "a boolean"

/-- an unsigned integer of 64 bits -/
def word64 : Json → Decoded UInt64
  | .number (.int i) =>
    if 0 ≤ i ∧ i < 0x10000000000000000 then .ok (UInt64.ofNat i.toNat) else .error (.invalidValue (.int i) "u64")
  | v => wrongType v "u64"

/-- a signed integer of 32 bits -/
def int32 : Json → Decoded Int32
  | .number (.int i) =>
    if -0x80000000 ≤ i ∧ i < 0x80000000 then .ok (Int32.ofInt i) else .error (.invalidValue (.int i) "i32")
  | v => wrongType v "i32"

/-- null, or a value -/
def optional {α : Type} (f : Json → Decoded α) : Json → Decoded (Option α)
  | .null => .ok none
  | v => some <$> f v

def list {α : Type} (f : Json → Decoded α) : Json → Decoded (List α)
  | .array items => items.mapM f
  | v => wrongType v "a sequence"

def nameSet (v : Json) : Decoded NameSet := NameSet.ofList <$> list string v

def entry {α : Type} (f : Json → Decoded α) (m : String × Json) : Decoded (String × α) := do
  return (m.1, ← f m.2)

def nameMap {α : Type} (f : Json → Decoded α) : Json → Decoded (NameMap α)
  | .object members => NameMap.ofList <$> members.mapM (entry f)
  | v => wrongType v "a map"

/-- a value without content -/
def unit : Json → Decoded Unit
  | .null => .ok ()
  | v => wrongType v "unit"

/-- a value without content that was set aside: an empty object counts as well -/
def bufferedUnit : Json → Decoded Unit
  | .object [] => .ok ()
  | v => unit v

def variant {α : Type} (known : List (String × α)) (name : String) : Decoded α :=
  match known.find? (·.1 = name) with
  | some (_, a) => .ok a
  | none => .error (.unknownVariant name (known.map (·.1)))

/-- a choice without content: its name, or an object with the name as its only key and nothing as its value -/
def choice {α : Type} (origin : Origin) (known : List (String × α)) : Json → Decoded α
  | .string s => variant known s
  | .object [(k, v)] => do
    let a ← variant known k
    match origin with
    | .document => unit v
    | .buffered => bufferedUnit v
    return a
  | .object _ => .error (.invalidValue .map "map with a single key")
  | v => wrongType v "string or map"

/-! ## Structures as objects -/

/-- a member, if present -/
def member {α : Type} (members : List (String × Json)) (key : String) (f : Json → Decoded α) : Decoded (Option α) :=
  match Json.member? key members with
  | none => .ok none
  | some v => some <$> f v

def required {α : Type} (key : String) : Option α → Decoded α
  | some a => .ok a
  | none => .error (.missingField key)

/-! ## Structures as lists -/

/-- the words for a structure written as a list -/
def structureOf (name : String) (count : Nat) : String :=
  "struct " ++ name ++ " with " ++ toString count ++ (if count = 1 then " element" else " elements")

def element {α : Type} (what : String) (items : List Json) (i : Nat) (f : Json → Decoded α) : Decoded α :=
  match items[i]? with
  | some v => f v
  | none => .error (.invalidLength i what)

def elementOr {α : Type} (default : α) (items : List Json) (i : Nat) (f : Json → Decoded α) : Decoded α :=
  match items[i]? with
  | some v => f v
  | none => .ok default

/-- the fault that elements are left over -/
def noMoreThan (origin : Origin) (count : Nat) (items : List Json) : Decoded Unit :=
  if items.length ≤ count then .ok ()
  else
    match origin with
    | .document => .error (.invalidLength items.length "fewer elements in array")
    | .buffered => .error (.invalidLength items.length
        (toString count ++ (if count = 1 then " element" else " elements") ++ " in sequence"))

end Decode
end ProcessBuild
