/-
Reading JSON text. The reader goes through the text once; a fault carries the line and the column, counted in bytes,
of the place where the reader stood: after the character that it took, or at the character that it only looked at.
Arrays and objects nest at most 127 deep. Of two members with one key the later counts.
-/
import ProcessBuild.Json.Number

namespace ProcessBuild

open Number (Binary64)

/-- why a text is not JSON -/
inductive JsonFault where
  | endInList
  | endInObject
  | endInString
  | endInValue
  | colonMissing
  | listSeparatorMissing
  | objectSeparatorMissing
  | badIdentifier
  | valueMissing
  | badEscape
  | badNumber
  | numberRange
  | controlCharacter
  | keyNotString
  | loneSurrogate
  | trailingComma
  | trailingCharacters
  | shortSurrogatePair
  | tooDeep
  deriving DecidableEq, Repr

def JsonFault.message : JsonFault → String
  | .endInList => "EOF while parsing a list"
  | .endInObject => "EOF while parsing an object"
  | .endInString => "EOF while parsing a string"
  | .endInValue => "EOF while parsing a value"
  | .colonMissing => "expected `:`"
  | .listSeparatorMissing => "expected `,` or `]`"
  | .objectSeparatorMissing => "expected `,` or `\x7d`"
  | .badIdentifier => "expected ident"
  | .valueMissing => "expected value"
  | .badEscape => "invalid escape"
  | .badNumber => "invalid number"
  | .numberRange => "number out of range"
  | .controlCharacter => "control character (\\u0000-\\u001F) found while parsing a string"
  | .keyNotString => "key must be a string"
  | .loneSurrogate => "lone leading surrogate in hex escape"
  | .trailingComma => "trailing comma"
  | .trailingCharacters => "trailing characters"
  | .shortSurrogatePair => "unexpected end of hex escape"
  | .tooDeep => "recursion limit exceeded"

/-- a place in a text: the line from one, the column in bytes from zero -/
structure TextPlace where
  line : Nat
  column : Nat
  deriving DecidableEq, Repr

/-- the suffix that names a place in a message -/
def TextPlace.suffix (p : TextPlace) : String :=
  " at line " ++ toString p.line ++ " column " ++ toString p.column

structure JsonError where
  fault : JsonFault
  place : TextPlace
  deriving DecidableEq, Repr

def JsonError.message (e : JsonError) : String := e.fault.message ++ e.place.suffix

namespace Json.Reader

/-- what is left of the text, and the place reached -/
structure Cursor where
  rest : List Char
  place : TextPlace
  deriving Repr

/-- what reading yields: a result, or a fault and its place -/
abbrev Outcome := Except JsonError

namespace Cursor

def after (p : TextPlace) (c : Char) : TextPlace :=
  if c = '\n' then ⟨p.line + 1, 0⟩ else ⟨p.line, p.column + c.utf8Size⟩

/-- the place after the next byte -/
def ahead (c : Cursor) : TextPlace :=
  match c.rest with
  | [] => c.place
  | '\n' :: _ => ⟨c.place.line + 1, 0⟩
  | _ => ⟨c.place.line, c.place.column + 1⟩

def fail {α : Type} (c : Cursor) (f : JsonFault) : Outcome α := .error ⟨f, c.place⟩

/-- a fault at the character that comes next -/
def failAhead {α : Type} (c : Cursor) (f : JsonFault) : Outcome α := .error ⟨f, c.ahead⟩

/-- go past the next character -/
def advance (c : Cursor) : Cursor :=
  match c.rest with
  | [] => c
  | x :: r => ⟨r, after c.place x⟩

/-- go past n characters -/
def advanceBy (c : Cursor) : Nat → Cursor
  | 0 => c
  | n + 1 => c.advance.advanceBy n

end Cursor

def isSpace (c : Char) : Bool := c = ' ' || c = '\n' || c = '\t' || c = '\r'

def skipSpaceFrom : List Char → TextPlace → Cursor
  | [], p => ⟨[], p⟩
  | c :: r, p => if isSpace c then skipSpaceFrom r (Cursor.after p c) else ⟨c :: r, p⟩

def skipSpace (c : Cursor) : Cursor := skipSpaceFrom c.rest c.place

/-! ## Numbers -/

/-- an ASCII digit -/
def isDigit (c : Char) : Bool := '0' ≤ c && c ≤ '9'

def digitValue (c : Char) : Nat := c.toNat - 48

/-- gather digits while the number stays within a limit: the number and how many digits were used -/
def gather (limit : Nat) : Nat → List Char → Nat × Nat
  | n, [] => (n, 0)
  | n, c :: r =>
    if n * 10 + digitValue c ≤ limit then
      let (m, k) := gather limit (n * 10 + digitValue c) r
      (m, k + 1)
    else (n, 0)

def maxExponent : Nat := Nat.pow 2 31 - 1

/-- the number made of sign, significand and exponent, at the place reached -/
def finish (positive : Bool) (significand : Nat) (exponent : Int) (c : Cursor) : Outcome (JsonNumber × Cursor) :=
  match JsonNumber.ofParts positive significand exponent with
  | some x => .ok (.float x, c)
  | none => c.fail .numberRange

/-- an exponent, from its letter on -/
def readExponent (positive : Bool) (significand : Nat) (start : Int) (c : Cursor) : Outcome (JsonNumber × Cursor) :=
  let c := c.advance
  let (up, c) :=
    match c.rest with
    | '+' :: _ => (true, c.advance)
    | '-' :: _ => (false, c.advance)
    | _ => (true, c)
  match c.rest with
  | [] => c.fail .endInValue
  | d :: _ =>
    if isDigit d then
      let ds := c.rest.takeWhile isDigit
      let (e, used) := gather maxExponent 0 ds
      if used < ds.length then
        if significand ≠ 0 && up then (c.advanceBy (used + 1)).fail .numberRange
        else .ok (.float (Binary64.zero (!positive)), c.advanceBy ds.length)
      else
        finish positive significand (if up then start + e else start - e) (c.advanceBy ds.length)
    else c.failAhead .badNumber

/-- a fraction, from its point on; `start` is the exponent of the integer part -/
def readFraction (positive : Bool) (significand : Nat) (start : Int) (c : Cursor) : Outcome (JsonNumber × Cursor) :=
  let c := c.advance
  let ds := c.rest.takeWhile isDigit
  if ds.isEmpty then
    match c.rest with
    | [] => c.failAhead .endInValue
    | _ => c.failAhead .badNumber
  else
    let (n, used) := gather JsonNumber.maxWord significand ds
    let c := c.advanceBy ds.length
    let exponent := start - used
    match c.rest with
    | 'e' :: _ | 'E' :: _ => readExponent positive n exponent c
    | _ => finish positive n exponent c

/-- an integer without point and exponent -/
def wholeNumber (positive : Bool) (n : Nat) : JsonNumber :=
  if positive then .int n
  else if n = 0 ∨ n > Nat.pow 2 63 then
    .float (((Binary64.ofRatio n 1).getD (Binary64.zero false)).withSign true)
  else .int (-(n : Int))

/-- a number, after its sign -/
def readNumber (positive : Bool) (c : Cursor) : Outcome (JsonNumber × Cursor) :=
  match c.rest with
  | [] => c.fail .endInValue
  | d :: r =>
    if d = '0' && r.head?.any isDigit then c.advance.failAhead .badNumber
    else if isDigit d then
      let ds := if d = '0' then ['0'] else c.rest.takeWhile isDigit
      let (n, used) := gather JsonNumber.maxWord 0 ds
      let c := c.advanceBy ds.length
      let dropped := ds.length - used
      match c.rest with
      | '.' :: _ => readFraction positive n dropped c
      | 'e' :: _ | 'E' :: _ => readExponent positive n dropped c
      | _ => if dropped = 0 then .ok (wholeNumber positive n, c) else finish positive n dropped c
    else c.failAhead .badNumber

/-! ## Strings -/

def hexValue? (c : Char) : Option Nat :=
  if isDigit c then some (c.toNat - 48)
  else if 'a' ≤ c && c ≤ 'f' then some (c.toNat - 87)
  else if 'A' ≤ c && c ≤ 'F' then some (c.toNat - 55)
  else none

/-- the place n bytes further on; a character cut in two counts for the bytes taken -/
def placeAfterBytes (p : TextPlace) : Nat → List Char → Option TextPlace
  | 0, _ => some p
  | _ + 1, [] => none
  | n + 1, c :: r =>
    if c.utf8Size ≤ n + 1 then placeAfterBytes (Cursor.after p c) (n + 1 - c.utf8Size) r
    else some ⟨p.line, p.column + (n + 1)⟩
termination_by _ cs => cs.length

/-- four hexadecimal digits -/
def readHexWord (c : Cursor) : Outcome (Nat × Cursor) :=
  match c.rest with
  | a :: b :: d :: e :: _ =>
    match hexValue? a, hexValue? b, hexValue? d, hexValue? e with
    | some w, some x, some y, some z => .ok (((w * 16 + x) * 16 + y) * 16 + z, c.advanceBy 4)
    | _, _, _, _ =>
      match placeAfterBytes c.place 4 c.rest with
      | some p => .error ⟨.badEscape, p⟩
      | none => (c.advanceBy c.rest.length).fail .endInString
  | _ =>
    match placeAfterBytes c.place 4 c.rest with
    | some p => .error ⟨.badEscape, p⟩
    | none => (c.advanceBy c.rest.length).fail .endInString

/-- the character written as `\u` and four digits, or as two such escapes; the cursor stands after `\u` -/
def readUnicodeEscape (c : Cursor) : Outcome (Char × Cursor) := do
  let (n, c) ← readHexWord c
  if 0xdc00 ≤ n && n ≤ 0xdfff then c.fail .loneSurrogate
  else if n < 0xd800 || n > 0xdbff then .ok (Char.ofNat n, c)
  else
    match c.rest with
    | [] => c.fail .endInString
    | '\\' :: _ =>
      let c := c.advance
      match c.rest with
      | [] => c.fail .endInString
      | 'u' :: _ =>
        let (m, c) ← readHexWord c.advance
        if m < 0xdc00 || m > 0xdfff then c.fail .loneSurrogate
        else .ok (Char.ofNat ((n - 0xd800) * 1024 + (m - 0xdc00) + 0x10000), c)
      | _ => c.failAhead .shortSurrogatePair
    | _ => c.failAhead .shortSurrogatePair

/-- the character of an escape; the cursor stands after the backslash -/
def readEscape (c : Cursor) : Outcome (Char × Cursor) :=
  match c.rest with
  | [] => c.fail .endInString
  | x :: _ =>
    let d := c.advance
    match x with
    | '"' => .ok ('"', d)
    | '\\' => .ok ('\\', d)
    | '/' => .ok ('/', d)
    | 'b' => .ok (Char.ofNat 8, d)
    | 'f' => .ok (Char.ofNat 12, d)
    | 'n' => .ok ('\n', d)
    | 'r' => .ok ('\r', d)
    | 't' => .ok ('\t', d)
    | 'u' => readUnicodeEscape d
    | _ => c.failAhead .badEscape

/-- the rest of a string whose characters so far are given in reverse; fuel bounds the characters left -/
def readStringFrom : Nat → List Char → Cursor → Outcome (String × Cursor)
  | 0, _, c => c.fail .endInString
  | fuel + 1, done, c =>
    match c.rest with
    | [] => c.fail .endInString
    | '"' :: _ => .ok (String.ofList done.reverse, c.advance)
    | '\\' :: _ => do
      let (x, c) ← readEscape c.advance
      readStringFrom fuel (x :: done) c
    | x :: _ =>
      if x.toNat < 0x20 then c.failAhead .controlCharacter
      else readStringFrom fuel (x :: done) c.advance

/-- a string, after its opening quote -/
def readString (fuel : Nat) (c : Cursor) : Outcome (String × Cursor) := readStringFrom fuel [] c

/-! ## Values -/

/-- the rest of a word such as `true` -/
def readWord (value : Json) : List Char → Cursor → Outcome (Json × Cursor)
  | [], c => .ok (value, c)
  | x :: r, c =>
    match c.rest with
    | [] => c.fail .endInValue
    | y :: _ => if x = y then readWord value r c.advance else c.failAhead .badIdentifier

/-- what comes next between brackets: another part, or nothing; the cursor then stands behind the closing bracket -/
inductive Next where
  | part (c : Cursor)
  | closed (c : Cursor)

/-- the next element of a list; `first` before the first one -/
def nextItem (first : Bool) (c : Cursor) : Outcome Next :=
  let c := skipSpace c
  match c.rest with
  | [] => c.failAhead .endInList
  | ']' :: _ => .ok (.closed c.advance)
  | x :: _ =>
    if first then .ok (.part c)
    else if x = ',' then
      let c := skipSpace c.advance
      match c.rest with
      | [] => c.failAhead .endInValue
      | ']' :: _ => c.failAhead .trailingComma
      | _ => .ok (.part c)
    else c.failAhead .listSeparatorMissing

/-- the next key of an object; `first` before the first one -/
def nextKey (first : Bool) (c : Cursor) : Outcome Next :=
  let c := skipSpace c
  match c.rest with
  | [] => c.failAhead .endInObject
  | '\x7d' :: _ => .ok (.closed c.advance)
  | x :: _ =>
    if first then
      if x = '"' then .ok (.part c) else c.failAhead .keyNotString
    else if x = ',' then
      let c := skipSpace c.advance
      match c.rest with
      | [] => c.failAhead .endInValue
      | '"' :: _ => .ok (.part c)
      | '\x7d' :: _ => c.failAhead .trailingComma
      | _ => c.failAhead .keyNotString
    else c.failAhead .objectSeparatorMissing

def passColon (c : Cursor) : Outcome Cursor :=
  let c := skipSpace c
  match c.rest with
  | [] => c.failAhead .endInObject
  | ':' :: _ => .ok c.advance
  | _ => c.failAhead .colonMissing

/-- the elements of a list, after its bracket or after an element; `first` before the first one -/
def readItems (readValue : Cursor → Outcome (Json × Cursor)) :
    Nat → Bool → List Json → Cursor → Outcome (List Json × Cursor)
  | 0, _, _, c => c.fail .endInList
  | fuel + 1, first, done, c => do
    match ← nextItem first c with
    | .closed c => return (done.reverse, c)
    | .part c =>
      let (v, c) ← readValue c
      readItems readValue fuel false (v :: done) c

/-- the members of an object, after its brace or after a member -/
def readMembers (readValue : Cursor → Outcome (Json × Cursor)) :
    Nat → Bool → List (String × Json) → Cursor → Outcome (List (String × Json) × Cursor)
  | 0, _, _, c => c.fail .endInObject
  | fuel + 1, first, done, c => do
    match ← nextKey first c with
    | .closed c => return (done, c)
    | .part c =>
      let (k, c) ← readString (fuel + 1) c.advance
      let (v, c) ← readValue (← passColon c)
      readMembers readValue fuel false (putMember k v done) c

/-- a value; the fuel bounds the length of its parts, the depth the brackets that may still open around it -/
def readValue (fuel : Nat) : Nat → Cursor → Outcome (Json × Cursor)
  | 0, c => c.failAhead .tooDeep
  | depth + 1, c =>
    let c := skipSpace c
    match c.rest with
    | [] => c.failAhead .endInValue
    | 'n' :: _ => readWord .null ['u', 'l', 'l'] c.advance
    | 't' :: _ => readWord (.bool true) ['r', 'u', 'e'] c.advance
    | 'f' :: _ => readWord (.bool false) ['a', 'l', 's', 'e'] c.advance
    | '"' :: _ => do
      let (s, c) ← readString fuel c.advance
      return (.string s, c)
    | '-' :: _ => do
      let (n, c) ← readNumber false c.advance
      return (.number n, c)
    | '[' :: _ =>
      if depth = 0 then c.failAhead .tooDeep
      else do
        let (items, c) ← readItems (readValue fuel depth) fuel true [] c.advance
        return (.array items, c)
    | '\x7b' :: _ =>
      if depth = 0 then c.failAhead .tooDeep
      else do
        let (members, c) ← readMembers (readValue fuel depth) fuel true [] c.advance
        return (.object members, c)
    | x :: _ =>
      if isDigit x then do
        let (n, c) ← readNumber true c
        return (.number n, c)
      else c.failAhead .valueMissing

/-- the deepest nesting, counting the value itself -/
def depthLimit : Nat := 128

end Json.Reader

/-- the value written by a whole text -/
def Json.parse (text : String) : Except JsonError Json := do
  let chars := text.toList
  let (v, c) ← Json.Reader.readValue (chars.length + 1) Json.Reader.depthLimit ⟨chars, ⟨1, 0⟩⟩
  let c := Json.Reader.skipSpace c
  match c.rest with
  | [] => return v
  | _ => c.failAhead .trailingCharacters

end ProcessBuild
