/-
File trees and the operations on them. A tree knows what stands at which place and from which directory relative paths
start. An operation answers or fails, and a failed operation leaves what it did before.
-/
import ProcessBuild.Files.Path

namespace ProcessBuild.Files

/-- why a file operation fails -/
inductive Fault where
  | notFound
  | alreadyExists
  | notDirectory
  | isDirectory
  | nameTooLong
  | nulInName
  deriving DecidableEq, Repr

def Fault.message : Fault → String
  | notFound => "No such file or directory (os error 2)"
  | alreadyExists => "File exists (os error 17)"
  | notDirectory => "Not a directory (os error 20)"
  | isDirectory => "Is a directory (os error 21)"
  | nameTooLong => "File name too long (os error 36)"
  | nulInName => "file name contained an unexpected NUL byte"

/-- a place in a tree: the names from the root on -/
abbrev Location := List String

/-- what stands at a place -/
inductive Entry where
  | file (content : String)
  | directory
  deriving DecidableEq, Repr

structure Tree where
  entries : List (Location × Entry) := []
  /-- the directory that relative paths start from -/
  here : Location := []
  deriving DecidableEq, Repr

def findEntry (place : Location) : List (Location × Entry) → Option Entry
  | [] => none
  | (l, e) :: rest => if l = place then some e else findEntry place rest

def putEntry (place : Location) (entry : Entry) : List (Location × Entry) → List (Location × Entry)
  | [] => [(place, entry)]
  | (l, e) :: rest => if l = place then (place, entry) :: rest else (l, e) :: putEntry place entry rest

theorem findEntry_putEntry (place other : Location) (entry : Entry) (l : List (Location × Entry)) :
    findEntry other (putEntry place entry l) = if other = place then some entry else findEntry other l := by
  induction l with
  | nil => simp [putEntry, findEntry, eq_comm]
  | cons a rest ih =>
    obtain ⟨k, e⟩ := a
    simp only [putEntry]
    split
    · rename_i h
      subst h
      simp only [findEntry, eq_comm]
      split <;> rfl
    · rename_i h
      simp only [findEntry, ih]
      by_cases hk : k = other
      · subst hk; simp [h]
      · simp [hk]

namespace Tree

/-- what stands at a place; the root is a directory -/
def entryAt (t : Tree) (place : Location) : Option Entry :=
  match place with
  | [] => some .directory
  | _ => findEntry place t.entries

def put (t : Tree) (place : Location) (entry : Entry) : Tree := { t with entries := putEntry place entry t.entries }

def content? (t : Tree) (place : Location) : Option String :=
  match t.entryAt place with
  | some (.file s) => some s
  | _ => none

/-- the entry at a place after something was put at a place below the root -/
theorem entryAt_put (t : Tree) (place other : Location) (entry : Entry) (h : place ≠ []) :
    (t.put place entry).entryAt other = if other = place then some entry else t.entryAt other := by
  unfold entryAt put
  split
  · simp [h.symm]
  · exact findEntry_putEntry place other entry t.entries

/-- the longest name that a place may have, in bytes -/
def nameLimit : Nat := 255

/-- fail unless a place is a directory -/
def requireDirectory (t : Tree) (place : Location) : Except Fault Unit :=
  match t.entryAt place with
  | none => .error .notFound
  | some (.file _) => .error .notDirectory
  | some .directory => .ok ()

/-- go one piece of a path further -/
def step (t : Tree) (place : Location) (piece : List Char) : Except Fault Location := do
  t.requireDirectory place
  if !Spelling.isPart piece then return place
  else if piece = ['.', '.'] then return place.dropLast
  else if (String.ofList piece).utf8ByteSize > nameLimit then throw .nameTooLong
  else return place ++ [String.ofList piece]

/-- go along the pieces of a path -/
def walk (t : Tree) (place : Location) (pieces : List (List Char)) : Except Fault Location :=
  pieces.foldlM t.step place

/-- where a path starts, and its pieces from there -/
def start (t : Tree) (path : String) : Except Fault (Location × List (List Char)) :=
  let s := path.toList
  if s.contains '\x00' then .error .nulInName
  else
    match s with
    | [] => .error .notFound
    | '/' :: r => .ok ([], Text.pieces '/' r)
    | _ => .ok (t.here, Text.pieces '/' s)

/-- the place that a path leads to, whether or not something stands there -/
def locate (t : Tree) (path : String) : Except Fault Location := do
  let (place, pieces) ← t.start path
  t.walk place pieces

def isDirectory (t : Tree) (path : String) : Bool :=
  match t.locate path with
  | .ok place => t.entryAt place = some .directory
  | .error _ => false

/-- where something new would go -/
inductive Slot where
  /-- the path ends with a step that only a directory can take -/
  | directory
  /-- a place, and whether the path ends with a slash -/
  | place (place : Location) (slash : Bool)
  deriving DecidableEq, Repr

def slot (t : Tree) (path : String) : Except Fault Slot := do
  let (place, pieces) ← t.start path
  match (pieces.reverse.dropWhile List.isEmpty) with
  | [] => return .directory
  | last :: before =>
    let directory ← t.walk place before.reverse
    let target ← t.step directory last
    if last = ['.'] ∨ last = ['.', '.'] then return .directory
    else return .place target (pieces.getLast? = some [])

def read (t : Tree) (path : String) : Except Fault String := do
  match t.entryAt (← t.locate path) with
  | none => throw .notFound
  | some .directory => throw .isDirectory
  | some (.file content) => return content

/-- the names in the directory at a place -/
def namesIn (t : Tree) (place : Location) : List String :=
  t.entries.filterMap fun e => if e.1.dropLast = place then e.1.getLast? else none

end Tree

/-- an operation on a tree -/
abbrev Action := ExceptT Fault (StateM Tree)

/-- make a directory in an existing one -/
def makeDirectory (path : String) : Action Unit := do
  let t ← get
  match ← t.slot path with
  | .directory => throw .alreadyExists
  | .place place _ =>
    match t.entryAt place with
    | some _ => throw .alreadyExists
    | none => set (t.put place .directory)

def ensureDirectory (path : String) : Action Unit :=
  tryCatch (makeDirectory path) fun fault => do
    if (← get).isDirectory path then pure () else throw fault

/-- make a directory and the directories around it unless they are there; the fuel bounds their number -/
def ensureDirectoriesFrom : Nat → String → Action Unit
  | 0, _ => throw .notFound
  | fuel + 1, path =>
    if path.isEmpty then return
    else
      tryCatch (ensureDirectory path) fun fault =>
        match fault, parent? path with
        | .notFound, some parent => do
          ensureDirectoriesFrom fuel parent
          ensureDirectory path
        | _, _ => throw fault

/-- make a directory and the directories around it unless they are there -/
def ensureDirectories (path : String) : Action Unit := ensureDirectoriesFrom ((components path).length + 1) path

/-- write a file, over what it held before -/
def writeFile (path content : String) : Action Unit := do
  let t ← get
  match ← t.slot path with
  | .directory => throw .isDirectory
  | .place place slash =>
    if slash || t.entryAt place = some .directory then throw .isDirectory
    else set (t.put place (.file content))

/-- write a file and make the directories around it -/
def writeFileDeep (path content : String) : Action Unit := do
  match parent? path with
  | some parent => ensureDirectories parent
  | none => pure ()
  writeFile path content

end ProcessBuild.Files
