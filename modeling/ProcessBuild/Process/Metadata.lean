/-
Metadata: free-form values under names. Truth values, integers of 32 and 64 bits and texts are supported by the
generated code; any other JSON value is kept as it is and left out there.
-/
import ProcessBuild.Json.Decode

namespace ProcessBuild

/-- a metadata value; the integer kinds are told apart by range, the smaller one first -/
inductive MetadataValue where
  | boolean (b : Bool)
  | integer (i : Int32)
  | long (i : Int64)
  | text (s : String)
  | other (v : Json)
  deriving Repr, Inhabited

/-- metadata by key -/
abbrev Metadata := NameMap MetadataValue

namespace MetadataValue

/-- whether the generated code can carry the value -/
def isSupported : MetadataValue → Bool
  | other _ => false
  | _ => true

/-- the value that a JSON value stands for; every JSON value stands for one -/
def ofJson : Json → MetadataValue
  | .bool b => boolean b
  | .number (.int i) =>
    if -0x80000000 ≤ i ∧ i < 0x80000000 then integer (Int32.ofInt i)
    else if -0x8000000000000000 ≤ i ∧ i < 0x8000000000000000 then long (Int64.ofInt i)
    else other (.number (.int i))
  | .string s => text s
  | v => other v

def toJson : MetadataValue → Json
  | boolean b => .bool b
  | integer i => .ofInt i.toInt
  | long i => .ofInt i.toInt
  | text s => .string s
  | other v => v

end MetadataValue

namespace Metadata

def ofJson : Json → Decoded Metadata := Decode.nameMap fun v => .ok (MetadataValue.ofJson v)

def toJson (m : Metadata) : Json := .object (m.entries.map fun e => (e.1, e.2.toJson))

end Metadata
end ProcessBuild
