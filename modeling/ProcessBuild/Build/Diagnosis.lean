/-
What a failed run of the external compiler says: which generated file it blames and why. The file is that of the first
location in the report, seen from the output directory; without a location the crate root is blamed. A missing crate,
an unresolved import and a type mismatch have sentences of their own; otherwise the first error line speaks.
-/
import ProcessBuild.Files.Path
import ProcessBuild.Source.Naming

namespace ProcessBuild

open Text

/-- a blamed file and the reason -/
structure Diagnosis where
  path : String
  reason : String
  deriving DecidableEq, Repr

namespace Diagnosis

/-- the file of a line that is a location: what comes before the last two colons -/
def located? (line : List Char) : Option (List Char) :=
  ((afterStart? "--> ".toList line).bind (beforeLast? ':')).bind (beforeLast? ':')

/-- the file of the first location of a report -/
def locatedFile? (report : List Char) : Option (List Char) := (trimmedLines report).findSome? located?

def slashed (c : Char) : Char := if c = '\\' then '/' else c

/-- a file seen from a directory, if it is below it, with slashes only -/
def seenFrom (directory file : String) : String :=
  String.ofList (((Files.below? file directory).getD file).toList.map slashed)

def blamedFile (report : List Char) (outputDir : String) : String :=
  match locatedFile? report with
  | some file => seenFrom outputDir (String.ofList file)
  | none => Source.crateRoot

/-- what stands in backquotes behind the first occurrence of some words that end with a backquote -/
def quotedAfter? (words : String) (report : List Char) : Option (List Char) :=
  (afterFirst? words.toList report).bind (before? '\x60')

/-- a text without the words at its start, however often they stand there -/
def withoutStarts (words : List Char) : Nat → List Char → List Char
  | 0, s => s
  | n + 1, s =>
    match afterStart? words s with
    | some rest => withoutStarts words n rest
    | none => s

/-- what an error line says: behind its code, or behind `error:` -/
def errorText? (line : List Char) : Option (List Char) :=
  let plain := "error:".toList
  if (afterStart? "error[E".toList line).isSome then afterFirst? "]: ".toList line
  else if (afterStart? plain line).isSome then
    let said := trim (withoutStarts plain line.length line)
    if said.isEmpty then none else some said
  else none

def reasonOf (report : List Char) : String :=
  match quotedAfter? "can't find crate for `" report with
  | some crate =>
    "Cannot find crate '" ++ String.ofList crate ++ "'. Add it to the dependency closure externs."
  | none =>
    let unresolved :=
      if occursIn "error[E0432]".toList report then quotedAfter? "unresolved import `" report else none
    match unresolved with
    | some path => "Unresolved import '" ++ String.ofList path ++ "'"
    | none =>
      if occursIn "error[E0308]".toList report then "Type mismatch in generated code"
      else
        match (trimmedLines report).findSome? errorText? with
        | some said => String.ofList said
        | none => "rustc failed without an error message"

/-- what a report says of a crate in an output directory -/
def ofReport (report outputDir : String) : Diagnosis :=
  ⟨blamedFile report.toList outputDir, reasonOf report.toList⟩

end Diagnosis
end ProcessBuild
