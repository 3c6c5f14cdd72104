/-
JSON values. Numbers keep the difference between integers and floating point numbers, which later stages rely on.
An object lists its members in ascending key order, each key once; `Json.member` inserts at that place.
-/
import ProcessBuild.Number.Binary64

namespace ProcessBuild

open Number (Binary64)

/-- a JSON number: an integer between -2^63 and 2^64 - 1, or a finite binary number -/
inductive JsonNumber where
  | int (i : Int)
  | float (x : Binary64)
  deriving DecidableEq, Repr, Inhabited

inductive Json where
  | null
  | bool (b : Bool)
  | number (n : JsonNumber)
  | string (s : String)
  | array (items : List Json)
  | object (members : List (String × Json))
  deriving Repr, BEq, Inhabited

namespace Json

/-- put a member into an ascending list, replacing one of the same key -/
def putMember {α : Type} (key : String) (value : α) : List (String × α) → List (String × α)
  | [] => [(key, value)]
  | (k, v) :: rest =>
    if key < k then (key, value) :: (k, v) :: rest
    else if key = k then (key, value) :: rest
    else (k, v) :: putMember key value rest

def member? (key : String) : List (String × Json) → Option Json
  | [] => none
  | (k, v) :: rest => if k = key then some v else member? key rest

def get? (key : String) : Json → Option Json
  | object ms => member? key ms
  | _ => none

def ofMembers (ms : List (String × Json)) : Json :=
  object (ms.foldl (fun acc m => putMember m.1 m.2 acc) [])

def ofInt (i : Int) : Json := number (.int i)

def ofNat (n : Nat) : Json := number (.int n)

def ofStrings (ss : List String) : Json := array (ss.map string)

end Json
end ProcessBuild
