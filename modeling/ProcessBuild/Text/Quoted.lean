/-
Quoted text. `literal` writes a string as a literal of the generated source, `debug` as a diagnostic shows it and
`debugPath` as a diagnostic shows a file path. All three escape tab, carriage return, newline, backslash, the double
quote and hidden characters; they differ in the NUL character and the apostrophe.
-/
import ProcessBuild.Text.Hidden

namespace ProcessBuild.Text

/-- a lower-case hexadecimal digit -/
def hexDigit (n : Nat) : Char := if n < 10 then Char.ofNat (48 + n) else Char.ofNat (87 + n)

/-- a number in lower-case hexadecimal, without leading zeros -/
def hex (n : Nat) : List Char :=
  if _h : n < 16 then [hexDigit n] else hex (n / 16) ++ [hexDigit (n % 16)]
termination_by n
decreasing_by omega

/-- a character by its code point, as `\u` and hexadecimal digits in braces -/
def codePointEscape (c : Char) : List Char := ['\\', 'u', '\x7b'] ++ hex c.toNat ++ ['\x7d']

/-- the escape of one character inside double quotes, the apostrophe kept -/
def escape (c : Char) : List Char :=
  if c = '\x00' then ['\\', '0']
  else if c = '\t' then ['\\', 't']
  else if c = '\r' then ['\\', 'r']
  else if c = '\n' then ['\\', 'n']
  else if c = '"' then ['\\', '"']
  else if c = '\\' then ['\\', '\\']
  else if isHidden c then codePointEscape c
  else [c]

/-- an octal digit, before which NUL is not written as `\0` -/
def isOctal (c : Char) : Bool :=
  let n := c.toNat
  48 ≤ n && n ≤ 55

/-- the inside of a string literal: NUL is `\0`, or `\x00` before an octal digit -/
def literalBody : List Char → List Char
  | [] => []
  | c :: r =>
    if c = '\x00' then
      (if r.head?.any isOctal then ['\\', 'x', '0', '0'] else ['\\', '0']) ++ literalBody r
    else escape c ++ literalBody r

/-- a string literal of the generated source -/
def literal (s : String) : String := String.ofList ('"' :: literalBody s.toList ++ ['"'])

/-- a text as diagnostics show it -/
def debug (s : String) : String := String.ofList ('"' :: s.toList.flatMap escape ++ ['"'])

/-- a file path as diagnostics show it: the apostrophe is escaped as well -/
def debugPath (s : String) : String :=
  String.ofList ('"' :: (s.toList.flatMap fun c => if c = '\'' then ['\\', '\''] else escape c) ++ ['"'])

end ProcessBuild.Text
