/-
The literals of source text: strings, byte strings, C strings, bytes, characters, integers and floats. Each recogniser
gives the width of the literal at the start of a text, its suffix counted, or nothing when there is none.
-/
import ProcessBuild.Text.Word

namespace ProcessBuild.Source.Literal

open Text

def wordWidth (s : List Char) : Nat :=
  match s with
  | [] => 0
  | c :: r => if isWordStart c then 1 + (r.takeWhile isWordRest).length else 0

/-- the width of a literal of `n` characters with its suffix, which may be missing -/
def suffixed (s : List Char) (n : Nat) : Nat := n + wordWidth (s.drop n)

def isHexDigit (c : Char) : Bool := isDigit c || ('a' ≤ c && c ≤ 'f') || ('A' ≤ c && c ≤ 'F')

def hexValue (c : Char) : Nat :=
  if isDigit c then c.toNat - 48 else if 'a' ≤ c then c.toNat - 87 else c.toNat - 55

/-! ## Quoted literals -/

inductive StringKind where
  | text
  | bytes
  | c
  deriving DecidableEq

/-- whether a kind of string may hold a character as it is -/
def StringKind.allows (k : StringKind) (x : Char) : Bool :=
  match k with
  | .text => true
  | .bytes => x.toNat < 128
  | .c => x != '\x00'

/-- the code point of an escape `\u{…}` and the width of the digits and braces, from its opening brace on -/
def codePoint (value digits n : Nat) : List Char → Option (Nat × Nat)
  | [] => none
  | x :: r =>
    if isHexDigit x then
      if digits = 6 then none else codePoint (value * 16 + hexValue x) (digits + 1) (n + 1) r
    else if digits = 0 then none
    else if x = '_' then codePoint value digits (n + 1) r
    else if x = '\x7d' then
      if value < 0xd800 ∨ (0xdfff < value ∧ value < 0x110000) then some (value, n + 1) else none
    else none

/-- the code point of an escape `\u{…}` after its `u` and the width of what follows the `u` -/
def bracedCodePoint : List Char → Option (Nat × Nat)
  | '\x7b' :: r => codePoint 0 0 1 r
  | _ => none

/-- the value and width of two hexadecimal digits -/
def twoHexDigits : List Char → Option Nat
  | x :: y :: _ => if isHexDigit x && isHexDigit y then some (hexValue x * 16 + hexValue y) else none
  | _ => none

/-- the width of the blanks after a backslash at the end of a line, which must end in some other character -/
def continuation (n : Nat) : List Char → Option Nat
  | [] => none
  | '\r' :: '\n' :: r => continuation (n + 2) r
  | '\r' :: _ => none
  | x :: r => if x = ' ' ∨ x = '\t' ∨ x = '\n' then continuation (n + 1) r else some n

/-- the width of an escape after its backslash, in a string or, when `inString` is off, in a character -/
def escapeWidth (k : StringKind) (inString : Bool) : List Char → Option Nat
  | [] => none
  | x :: r =>
    if x = 'x' then
      match twoHexDigits r with
      | none => none
      | some v =>
        match k with
        | .text => if v < 128 then some 3 else none
        | .bytes => some 3
        | .c => if v = 0 then none else some 3
    else if x = 'u' then
      match k, bracedCodePoint r with
      | .text, some (_, n) => some (1 + n)
      | .c, some (v, n) => if v = 0 then none else some (1 + n)
      | _, _ => none
    else if x = '0' then if k = .c then none else some 1
    else if ['n', 'r', 't', '\\', '\'', '"'].contains x then some 1
    else if inString && (x = '\n' || x = '\r') then continuation 0 (x :: r)
    else none

/-- the width of a string through its closing quote, `n` characters of it read; `skip` of the next ones are decided -/
def stringEnd (k : StringKind) (n skip : Nat) : List Char → Option Nat
  | [] => none
  | x :: r =>
    match skip with
    | m + 1 => stringEnd k (n + 1) m r
    | 0 =>
      if x = '"' then some (n + 1)
      else if x = '\r' then
        match r with
        | '\n' :: _ => stringEnd k (n + 1) 1 r
        | _ => none
      else if x = '\\' then
        match escapeWidth k true r with
        | some w => stringEnd k (n + 1) w r
        | none => none
      else if k.allows x then stringEnd k (n + 1) 0 r
      else none

/-- the number of number signs at the start of a text -/
def hashes (s : List Char) : Nat := (s.takeWhile (· == '#')).length

/-- the width of a raw string through its closing quote and number signs, `n` characters of it read -/
def rawEnd (k : StringKind) (guards n skip : Nat) : List Char → Option Nat
  | [] => none
  | x :: r =>
    match skip with
    | m + 1 => rawEnd k guards (n + 1) m r
    | 0 =>
      if x = '"' ∧ guards ≤ hashes r then some (n + 1 + guards)
      else if x = '\r' then
        match r with
        | '\n' :: _ => rawEnd k guards (n + 1) 1 r
        | _ => none
      else if k.allows x then rawEnd k guards (n + 1) 0 r
      else none

/-- the width of a raw string, `n` characters before its number signs -/
def rawString (k : StringKind) (n : Nat) (s : List Char) : Option Nat :=
  let guards := hashes s
  match s.drop guards with
  | '"' :: r => if guards ≤ 255 then rawEnd k guards (n + guards + 1) 0 r else none
  | _ => none

/-- the width of a string of any kind -/
def string (s : List Char) : Option Nat :=
  match s with
  | '"' :: r => stringEnd .text 1 0 r
  | 'r' :: r => rawString .text 1 r
  | 'b' :: '"' :: r => stringEnd .bytes 2 0 r
  | 'b' :: 'r' :: r => rawString .bytes 2 r
  | 'c' :: '"' :: r => stringEnd .c 2 0 r
  | 'c' :: 'r' :: r => rawString .c 2 r
  | _ => none

/-- the width of one character and the quote after it, `n` characters before it -/
def quotedChar (k : StringKind) (n : Nat) : List Char → Option Nat
  | [] => none
  | '\\' :: r =>
    match escapeWidth k false r with
    | some w => if (r.drop w).head? = some '\'' then some (n + 2 + w) else none
    | none => none
  | x :: r => if k.allows x && r.head? == some '\'' then some (n + 2) else none

/-- the width of a character or a byte -/
def char (s : List Char) : Option Nat :=
  match s with
  | '\'' :: r => quotedChar .text 1 r
  | 'b' :: '\'' :: r => quotedChar .bytes 2 r
  | _ => none

/-! ## Numbers -/

/-- the digits of a float up to its exponent: their width, whether there is a point, and what follows an `e` -/
def mantissa (n : Nat) (point : Bool) : List Char → Option (Nat × Bool × Option (List Char))
  | [] => some (n, point, none)
  | x :: r =>
    if isDigit x || x == '_' then mantissa (n + 1) point r
    else if x = '.' then
      if point then some (n, point, none)
      else if r.head?.any fun y => y == '.' || isWordStart y then none
      else mantissa (n + 1) true r
    else if x = 'e' ∨ x = 'E' then some (n + 1, point, some r)
    else some (n, point, none)

/-- the width of a float through its exponent, which needs a digit and takes one sign -/
def exponent (sign value : Bool) (n : Nat) : List Char → Option Nat
  | [] => if value then some n else none
  | x :: r =>
    if x = '+' ∨ x = '-' then
      if value then some n else if sign then none else exponent true value (n + 1) r
    else if isDigit x then exponent sign true (n + 1) r
    else if x = '_' then exponent sign value (n + 1) r
    else if value then some n
    else none

/-- the width of a float without its suffix: digits with a point or an exponent -/
def floatDigits (s : List Char) : Option Nat :=
  match s with
  | [] => none
  | x :: r =>
    if isDigit x then
      match mantissa 1 false r with
      | none => none
      | some (n, point, none) => if point then some n else none
      | some (n, point, some r) =>
        match exponent false false n r with
        | some m => some m
        | none => if point then some (n - 1) else none
    else none

/-- the width of the digits of an integer; a letter that is no digit ends them, a digit too large is refused -/
def digits (base n : Nat) (none_yet : Bool) : List Char → Option Nat
  | [] => if none_yet then none else some n
  | x :: r =>
    if isDigit x then if hexValue x < base then digits base (n + 1) false r else none
    else if isHexDigit x && hexValue x < base then digits base (n + 1) false r
    else if x = '_' then if none_yet && base == 10 then none else digits base (n + 1) none_yet r
    else if none_yet then none
    else some n

/-- the width of an integer without its suffix -/
def intDigits (s : List Char) : Option Nat :=
  match s with
  | '0' :: 'x' :: r => digits 16 2 true r
  | '0' :: 'o' :: r => digits 8 2 true r
  | '0' :: 'b' :: r => digits 2 2 true r
  | _ => digits 10 0 true s

/-- the width of a number with its suffix; no character of a word may follow -/
def number (s : List Char) (n : Nat) : Option Nat :=
  let m := suffixed s n
  if (s.drop m).head?.any isWordRest then none else some m

def width (s : List Char) : Option Nat :=
  ((string s).map (suffixed s)).or <|
    ((char s).map (suffixed s)).or <|
      ((floatDigits s).bind (number s)).or ((intDigits s).bind (number s))

/-! ## Kinds of literals -/

def isString (text : String) : Bool :=
  match text.toList with
  | '"' :: _ => true
  | 'r' :: _ => true
  | _ => false

def isNumber (text : String) : Bool := text.toList.head?.any isDigit

/-- whether digits and underscores with at least one digit start a text, as after the `e` of a float -/
def hasExponent (value : Bool) : List Char → Bool
  | [] => value
  | x :: r =>
    if isDigit x then hasExponent true r
    else if x = '_' then hasExponent value r
    else if x = '+' ∨ x = '-' then true
    else value

/-- whether the digits of a decimal number go on as those of a float -/
def isDecimalFloat : List Char → Bool
  | [] => false
  | x :: r =>
    if isDigit x || x == '_' then isDecimalFloat r
    else if x = '.' then true
    else if x = 'e' ∨ x = 'E' then hasExponent false r
    else false

def isFloat (text : String) : Bool :=
  match text.toList with
  | '0' :: 'x' :: _ => false
  | '0' :: 'o' :: _ => false
  | '0' :: 'b' :: _ => false
  | s => isNumber text && isDecimalFloat s

def isInteger (text : String) : Bool := isNumber text && !isFloat text

end ProcessBuild.Source.Literal
