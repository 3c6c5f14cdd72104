/-
Writing JSON values: on one line without spaces, or indented by two spaces a level with a space after each colon.
-/
import ProcessBuild.Json.Number
import ProcessBuild.Text.Quoted

namespace ProcessBuild.Json

/-- a character inside a JSON string -/
def escapeChar (c : Char) : List Char :=
  if c = '"' then ['\\', '"']
  else if c = '\\' then ['\\', '\\']
  else if c = Char.ofNat 8 then ['\\', 'b']
  else if c = Char.ofNat 12 then ['\\', 'f']
  else if c = '\n' then ['\\', 'n']
  else if c = '\r' then ['\\', 'r']
  else if c = '\t' then ['\\', 't']
  else if c.toNat < 0x20 then
    ['\\', 'u', '0', '0', Text.hexDigit (c.toNat / 16), Text.hexDigit (c.toNat % 16)]
  else [c]

def quote (s : String) : List Char := '"' :: s.toList.flatMap escapeChar ++ ['"']

mutual

/-- the characters of a value on one line -/
def compactChars : Json → List Char
  | .null => ['n', 'u', 'l', 'l']
  | .bool true => ['t', 'r', 'u', 'e']
  | .bool false => ['f', 'a', 'l', 's', 'e']
  | .number n => n.text
  | .string s => quote s
  | .array items => '[' :: compactItems true items ++ [']']
  | .object members => '\x7b' :: compactMembers true members ++ ['\x7d']

/-- the elements of a list with their commas -/
def compactItems (first : Bool) : List Json → List Char
  | [] => []
  | v :: rest => (if first then [] else [',']) ++ compactChars v ++ compactItems false rest

/-- the members of an object with their commas -/
def compactMembers (first : Bool) : List (String × Json) → List Char
  | [] => []
  | m :: rest => (if first then [] else [',']) ++ compactMember m ++ compactMembers false rest

def compactMember : String × Json → List Char
  | (k, v) => quote k ++ ':' :: compactChars v

end

def indent (level : Nat) : List Char := List.replicate (2 * level) ' '

mutual

/-- the characters of a value, indented -/
def prettyChars (level : Nat) : Json → List Char
  | .array [] => ['[', ']']
  | .array (v :: rest) =>
    '[' :: prettyItems (level + 1) true (v :: rest) ++ '\n' :: indent level ++ [']']
  | .object [] => ['\x7b', '\x7d']
  | .object (m :: rest) =>
    '\x7b' :: prettyMembers (level + 1) true (m :: rest) ++ '\n' :: indent level ++ ['\x7d']
  | v => compactChars v

/-- the elements of a list, one a line -/
def prettyItems (level : Nat) (first : Bool) : List Json → List Char
  | [] => []
  | v :: rest =>
    (if first then [] else [',']) ++ '\n' :: indent level ++ prettyChars level v ++ prettyItems level false rest

/-- the members of an object, one a line -/
def prettyMembers (level : Nat) (first : Bool) : List (String × Json) → List Char
  | [] => []
  | m :: rest =>
    (if first then [] else [',']) ++ '\n' :: indent level ++ prettyMember level m ++ prettyMembers level false rest

def prettyMember (level : Nat) : String × Json → List Char
  | (k, v) => quote k ++ ':' :: ' ' :: prettyChars level v

end

def compact (v : Json) : String := String.ofList (compactChars v)

def pretty (v : Json) : String := String.ofList (prettyChars 0 v)

end ProcessBuild.Json
