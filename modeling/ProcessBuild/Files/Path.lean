/-
File paths as text. A path is read as a list of components: the root or the leading `.` it is anchored at, if any, and
then the names and the steps upwards between its slashes. Repeated slashes, trailing slashes and `.` further inside
are no components, yet a path that is cut keeps the spelling of what is left.
-/
import ProcessBuild.Text.Search

namespace ProcessBuild.Files

open Text

/-- a step of a path -/
inductive Component where
  | root
  | here
  | up
  | name (text : String)
  deriving DecidableEq, Repr

/-- a path before its components are told apart -/
structure Spelling where
  /-- what the path is anchored at: the root, or the current directory when the path says so -/
  anchor : Option Component
  /-- what stands between the slashes behind the anchor -/
  pieces : List (List Char)
  deriving DecidableEq, Repr

namespace Spelling

def ofChars : List Char → Spelling
  | '/' :: r => ⟨some .root, Text.pieces '/' r⟩
  | s =>
    match Text.pieces '/' s with
    | ['.'] :: ps => ⟨some .here, ps⟩
    | ps => ⟨none, ps⟩

/-- whether a piece is a component: an empty piece and a dot are not -/
def isPart (p : List Char) : Bool := !(p.isEmpty || p = ['.'])

def component (p : List Char) : Component := if p = ['.', '.'] then .up else .name (String.ofList p)

def components (s : Spelling) : List Component := s.anchor.toList ++ (s.pieces.filter isPart).map component

/-- pieces without those behind the last component -/
def trimmed (ps : List (List Char)) : List (List Char) := (ps.reverse.dropWhile fun p => !isPart p).reverse

/-- the pieces from the component of the given number on -/
def dropParts : Nat → List (List Char) → List (List Char)
  | _, [] => []
  | n, p :: ps =>
    if isPart p then
      match n with
      | 0 => p :: ps
      | n + 1 => dropParts n ps
    else dropParts n ps

/-- the path of an anchor and pieces -/
def toChars : Option Component → List (List Char) → List Char
  | some .root, ps => '/' :: joinPieces '/' ps
  | some .here, ps => joinPieces '/' (['.'] :: ps)
  | _, ps => joinPieces '/' ps

/-- the path without its first components and without what trails its last one -/
def dropFirst (s : Spelling) : Nat → List Char
  | 0 => toChars s.anchor (trimmed s.pieces)
  | n + 1 => joinPieces '/' (trimmed (dropParts (if s.anchor.isSome then n else n + 1) s.pieces))

end Spelling

def spelling (path : String) : Spelling := Spelling.ofChars path.toList

def components (path : String) : List Component := (spelling path).components

def isRooted (path : String) : Bool := path.toList.head? = some '/'

/-- a path seen from a directory; a path that starts at the root stays as it is -/
def join (directory path : String) : String :=
  if isRooted path then path
  else if directory.isEmpty || directory.toList.getLast? = some '/' then directory ++ path
  else directory ++ "/" ++ path

/-- the path without its last component; none for a path without components and for the root -/
def parent? (path : String) : Option String :=
  let s := spelling path
  match Spelling.trimmed s.pieces with
  | [] => if s.anchor = some .here then some "" else none
  | p :: ps => some (String.ofList (Spelling.toChars s.anchor (Spelling.trimmed (p :: ps).dropLast)))

/-- the rest of a path below a directory, if its components start with those of the directory -/
def below? (path directory : String) : Option String :=
  let ds := components directory
  if ds.isPrefixOf (components path) then some (String.ofList ((spelling path).dropFirst ds.length)) else none

namespace Component

/-- the kind of a component in the order of components -/
def rank : Component → Nat
  | root => 0
  | here => 1
  | up => 2
  | name _ => 3

/-- whether a component comes before another or is the same -/
def atMost : Component → Component → Bool
  | name a, name b => a ≤ b
  | a, b => a.rank ≤ b.rank

/-- the order of component lists, the first difference deciding -/
def listAtMost : List Component → List Component → Bool
  | [], _ => true
  | _ :: _, [] => false
  | a :: as, b :: bs => if a = b then listAtMost as bs else a.atMost b

end Component

/-- paths in the order of their components -/
def sortPaths (paths : List String) : List String :=
  paths.mergeSort fun a b => Component.listAtMost (components a) (components b)

end ProcessBuild.Files
