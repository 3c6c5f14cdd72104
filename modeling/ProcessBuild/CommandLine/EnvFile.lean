/-
Environment files. A line sets a variable as `KEY=value`, with `export` in front if one likes; blank lines and lines
that start with `#` say nothing. A value may be quoted, and a backslash escapes outside single quotes. A variable that
already has a value keeps it, and loading ends at the first line that is none of this.
-/
import ProcessBuild.Build.Settings
import ProcessBuild.Text.Search

namespace ProcessBuild.EnvFile

open Text

/-- where in a value a character stands -/
inductive Place where
  | plain
  | single
  | double
  | escaped (quoted : Bool)
  | behind
  deriving DecidableEq, Repr

/-- the character that an escape stands for -/
def unescaped? (c : Char) : Option Char :=
  if ['\\', '\'', '"', '$', ' '].contains c then some c else if c = 'n' then some '\n' else none

/-- the rest of a value; the characters so far are given in reverse -/
def valueFrom : Place → List Char → List Char → Option (List Char)
  | .single, _, [] | .double, _, [] => none
  | _, done, [] => some done.reverse
  | .behind, done, c :: r =>
    if c = ' ' || c = '\t' then valueFrom .behind done r else if c = '#' then some done.reverse else none
  | .escaped quoted, done, c :: r =>
    (unescaped? c).bind fun x => valueFrom (if quoted then .double else .plain) (x :: done) r
  | .single, done, c :: r => if c = '\'' then valueFrom .plain done r else valueFrom .single (c :: done) r
  | .double, done, c :: r =>
    if c = '"' then valueFrom .plain done r
    else if c = '\\' then valueFrom (.escaped true) done r
    else valueFrom .double (c :: done) r
  | .plain, done, c :: r =>
    if c = '\'' then valueFrom .single done r
    else if c = '"' then valueFrom .double done r
    else if c = '\\' then valueFrom (.escaped false) done r
    else if c = ' ' || c = '\t' then valueFrom .behind done r
    else valueFrom .plain (c :: done) r

/-- a character of a variable name -/
def isNameChar (c : Char) : Bool := isAlnum c || c = '_' || c = '.'

/-- the name of a variable, and what follows it without blanks in front -/
def name? (s : List Char) : Option (List Char × List Char) :=
  match s with
  | [] => none
  | c :: _ =>
    if isLetter c || c = '_' then some (s.takeWhile isNameChar, trimStart (s.dropWhile isNameChar)) else none

/-- the name that a line sets, and what follows the sign of equality without blanks in front -/
def target? (line : List Char) : Option (List Char × List Char) := do
  let (name, rest) ← name? line
  match rest with
  | '=' :: value => return (name, trimStart value)
  | _ =>
    if name ≠ "export".toList then none
    else
      let (name, rest) ← name? rest
      match rest with
      | '=' :: value => return (name, trimStart value)
      | _ => none

def setting? (line : List Char) : Option (String × String) := do
  let (name, rest) ← target? line
  let value ← if rest.head? = some '#' then some [] else valueFrom .plain [] rest
  return (String.ofList name, String.ofList value)

def loadLines (vars : Variables) : List (List Char) → Variables
  | [] => vars
  | line :: rest =>
    if line.isEmpty || line.head? = some '#' then loadLines vars rest
    else
      match setting? line with
      | none => vars
      | some (name, value) =>
        loadLines (if vars.contains name then vars else vars.insert name value) rest

def load (vars : Variables) (text : String) : Variables := loadLines vars (trimmedLines text.toList)

end ProcessBuild.EnvFile
