/-
Passing over JSON values that nobody asked for. A value is passed over without being built: brackets may nest to any
depth, digits are not converted, and escapes of single surrogates are let through.
-/
import ProcessBuild.Json.Reader

namespace ProcessBuild.Json.Reader

def skipDigits (c : Cursor) : Cursor := c.advanceBy (c.rest.takeWhile isDigit).length

def skipSomeDigits (c : Cursor) : Outcome Cursor :=
  match c.rest with
  | [] => c.fail .badNumber
  | d :: _ => if isDigit d then .ok (skipDigits c) else c.failAhead .badNumber

/-- an exponent, from its letter on -/
def skipExponent (c : Cursor) : Outcome Cursor :=
  let c := c.advance
  match c.rest with
  | '+' :: _ | '-' :: _ => skipSomeDigits c.advance
  | _ => skipSomeDigits c

/-- an exponent, if one follows -/
def skipAnyExponent (c : Cursor) : Outcome Cursor :=
  match c.rest with
  | 'e' :: _ | 'E' :: _ => skipExponent c
  | _ => .ok c

/-- a number, after its sign -/
def skipNumber (c : Cursor) : Outcome Cursor := do
  let whole ←
    match c.rest with
    | '0' :: r => if r.head?.any isDigit then c.advance.failAhead .badNumber else pure c.advance
    | _ => skipSomeDigits c
  match whole.rest with
  | '.' :: _ => skipAnyExponent (← skipSomeDigits whole.advance)
  | _ => skipAnyExponent whole

/-- an escape; the cursor stands after the backslash -/
def skipEscape (c : Cursor) : Outcome Cursor :=
  match c.rest with
  | [] => c.fail .endInString
  | x :: _ =>
    if x = 'u' then (readHexWord c.advance).map Prod.snd
    else if ['"', '\\', '/', 'b', 'f', 'n', 'r', 't'].contains x then .ok c.advance
    else c.failAhead .badEscape

/-- the rest of a string; the fuel bounds the characters left -/
def skipString : Nat → Cursor → Outcome Cursor
  | 0, c => c.fail .endInString
  | fuel + 1, c =>
    match c.rest with
    | [] => c.fail .endInString
    | '"' :: _ => .ok c.advance
    | '\\' :: _ => do skipString fuel (← skipEscape c.advance)
    | x :: _ => if x.toNat < 0x20 then c.fail .controlCharacter else skipString fuel c.advance

/-- a value that is neither list nor object -/
def skipScalar (fuel : Nat) (c : Cursor) : Outcome Cursor :=
  match c.rest with
  | 'n' :: _ => (readWord .null ['u', 'l', 'l'] c.advance).map Prod.snd
  | 't' :: _ => (readWord .null ['r', 'u', 'e'] c.advance).map Prod.snd
  | 'f' :: _ => (readWord .null ['a', 'l', 's', 'e'] c.advance).map Prod.snd
  | '"' :: _ => skipString fuel c.advance
  | '-' :: _ => skipNumber c.advance
  | x :: _ => if isDigit x then skipNumber c else c.failAhead .valueMissing
  | [] => c.failAhead .endInValue

/-- an open bracket -/
inductive Bracket where
  | list
  | object
  deriving DecidableEq, Repr

namespace Bracket

def closing : Bracket → Char
  | list => ']'
  | object => '\x7d'

/-- the fault that the text ends inside a bracket -/
def unclosed : Bracket → JsonFault
  | list => .endInList
  | object => .endInObject

/-- the fault that something other than a comma follows a part -/
def unseparated : Bracket → JsonFault
  | list => .listSeparatorMissing
  | object => .objectSeparatorMissing

end Bracket

/-- what stands before a value inside a bracket: nothing in a list, a key and a colon in an object -/
def skipKey (fuel : Nat) (b : Bracket) (c : Cursor) : Outcome Cursor :=
  match b with
  | .list => .ok c
  | .object => do
    let c := skipSpace c
    match c.rest with
    | [] => c.failAhead .endInObject
    | '"' :: _ => passColon (← skipString fuel c.advance)
    | _ => c.failAhead .keyNotString

/-- how far the passing over has come -/
inductive SkipStage where
  /-- a value comes next -/
  | value
  /-- a bracket has just been opened -/
  | opened
  /-- a value lies behind -/
  | behind
  deriving DecidableEq, Repr

/-- pass over what is left of a value inside open brackets; the fuel bounds the steps -/
def skipFrom (size : Nat) : Nat → SkipStage → List Bracket → Cursor → Outcome Cursor
  | 0, _, _, c => c.fail .endInValue
  | fuel + 1, .value, around, c =>
    let c := skipSpace c
    match c.rest with
    | '[' :: _ => skipFrom size fuel .opened (.list :: around) c.advance
    | '\x7b' :: _ => skipFrom size fuel .opened (.object :: around) c.advance
    | _ => do skipFrom size fuel .behind around (← skipScalar size c)
  | fuel + 1, .opened, b :: around, c =>
    let c := skipSpace c
    match c.rest with
    | [] => c.failAhead b.unclosed
    | x :: _ =>
      if x = b.closing then skipFrom size fuel .behind around c.advance
      else do skipFrom size fuel .value (b :: around) (← skipKey size b c)
  | fuel + 1, .behind, b :: around, c =>
    let c := skipSpace c
    match c.rest with
    | [] => c.failAhead b.unclosed
    | x :: _ =>
      if x = ',' then do skipFrom size fuel .value (b :: around) (← skipKey size b c.advance)
      else if x = b.closing then skipFrom size fuel .behind around c.advance
      else c.failAhead b.unseparated
  | _ + 1, _, [], c => .ok c

/-- pass over a value; every step but two of three takes a character -/
def skipValue (c : Cursor) : Outcome Cursor :=
  skipFrom (c.rest.length + 1) (3 * c.rest.length + 3) .value [] c

end ProcessBuild.Json.Reader
