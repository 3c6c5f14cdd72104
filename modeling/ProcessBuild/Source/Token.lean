/-
Tokens of source text, in trees: words, single punctuation characters, literals, and groups between delimiters. The
text of a token list puts one space between tokens, none after a punctuation character that is joined to the next.
-/
import ProcessBuild.Text.Quoted

namespace ProcessBuild.Source

/-- the delimiters of groups -/
inductive Delimiter where
  | parenthesis
  | bracket
  | brace
  deriving DecidableEq, Repr

/-- a token tree -/
inductive Token where
  | word (name : String)
  | punct (c : Char) (joint : Bool)
  | literal (text : String)
  | group (delimiter : Delimiter) (inner : List Token)
  deriving Repr, BEq, Inhabited

namespace Token

/-- a punctuation character that stands alone -/
def mark (c : Char) : Token := punct c false

/-- an operator: all its characters but the last are joined to the next -/
def operatorChars : List Char → List Token
  | [] => []
  | [c] => [punct c false]
  | c :: rest => punct c true :: operatorChars rest

/-- the tokens of an operator -/
def operator (s : String) : List Token := operatorChars s.toList

def pathSeparator : List Token := [punct ':' true, punct ':' false]

def path : List String → List Token
  | [] => []
  | [w] => [word w]
  | w :: rest => word w :: pathSeparator ++ path rest

def parens (inner : List Token) : Token := group .parenthesis inner

def brackets (inner : List Token) : Token := group .bracket inner

def braces (inner : List Token) : Token := group .brace inner

/-- a string literal -/
def string (s : String) : Token := literal (Text.literal s)

def lifetime (name : String) : List Token := [punct '\'' true, word name]

/-- items with a comma between each two -/
def separated : List (List Token) → List Token
  | [] => []
  | [ts] => ts
  | ts :: rest => ts ++ mark ',' :: separated rest

/-- a documentation line, as the attribute it stands for -/
def docLine (text : String) : List Token :=
  [mark '#', brackets [word "doc", mark '=', literal ("r\"" ++ text ++ "\"")]]

/-- whether the next token follows without a space -/
def isJoint : Token → Bool
  | punct _ joint => joint
  | _ => false

end Token

/-! ## Text of tokens -/

def Delimiter.opening : Delimiter → List Char
  | .parenthesis => ['(']
  | .bracket => ['[']
  | .brace => ['\x7b', ' ']

/-- the closing of a group; a brace that closes a group with tokens in it stands apart -/
def Delimiter.closing (isEmpty : Bool) : Delimiter → List Char
  | .parenthesis => [')']
  | .bracket => [']']
  | .brace => if isEmpty then ['\x7d'] else [' ', '\x7d']

mutual

def Token.chars : Token → List Char
  | .word name => name.toList
  | .punct c _ => [c]
  | .literal text => text.toList
  | .group d inner => d.opening ++ tokenChars true inner ++ d.closing inner.isEmpty

/-- the characters of a token list; `tight` when the first token follows without a space -/
def tokenChars (tight : Bool) : List Token → List Char
  | [] => []
  | t :: rest => (if tight then [] else [' ']) ++ t.chars ++ tokenChars t.isJoint rest

end

def text (tokens : List Token) : String := String.ofList (tokenChars true tokens)

end ProcessBuild.Source
