/-
The program on a real disk. What the arguments and variables name is read into a file tree, the program runs on the
tree, and what it changed is written back. The external compiler is never called from here, so a build that asks for
its check is told that there is none.
-/
import ProcessBuild.CommandLine.Run

namespace ProcessBuild.Disk

open Files

def pathOf (place : Location) : String := "/" ++ String.intercalate "/" place

/-- the text of a file; bytes that are no text read as one NUL -/
def readText (place : Location) : IO String := do
  return (String.fromUTF8? (← IO.FS.readBinFile (pathOf place))).getD "\x00"

/-- take what stands at a place into a tree; false if nothing stands there -/
def takeEntry (t : Tree) (place : Location) : IO (Tree × Bool) := do
  let path := (← IO.currentDir) / pathOf place
  if ← path.isDir then return (t.put place .directory, true)
  else if ← path.pathExists then return (t.put place (.file (← readText place)), true)
  else return (t, false)

def takeEntries (t : Tree) (place : Location) : IO Tree := do
  let directory := (← IO.currentDir) / pathOf place
  if ← directory.isDir then
    let names := (← directory.readDir).toList.map (·.fileName)
    names.foldlM (fun t name => Prod.fst <$> takeEntry t (place ++ [name])) t
  else return t

/-- take everything along the pieces of a path into a tree, and the entries of the directory it leads to -/
def takeAlong (t : Tree) (place : Location) : List (List Char) → IO Tree
  | [] => takeEntries t place
  | piece :: rest => do
    if !Spelling.isPart piece then takeAlong t place rest
    else if piece = ['.', '.'] then takeAlong t place.dropLast rest
    else
      let place := place ++ [String.ofList piece]
      let (t, found) ← takeEntry t place
      if found then takeAlong t place rest else return t

/-- take everything along a path into a tree -/
def takePath (t : Tree) (path : String) : IO Tree :=
  match t.start path with
  | .ok (place, pieces) => takeAlong t place pieces
  | .error _ => return t

/-- take a place and the environment files in it and around it into a tree -/
def takeAround (t : Tree) : Nat → Location → IO Tree
  | 0, place => Prod.fst <$> takeEntry t (place ++ [Program.envFileName])
  | n + 1, place => do
    let (t, _) ← takeEntry t place
    let (t, _) ← takeEntry t (place ++ [Program.envFileName])
    takeAround t n place.dropLast

def writeBack (before after : Tree) : IO Unit :=
  after.entries.forM fun e =>
    if before.entryAt e.1 = some e.2 then return ()
    else
      match e.2 with
      | .directory => IO.FS.createDirAll (pathOf e.1)
      | .file content => IO.FS.writeFile (pathOf e.1) content

def variableNames : List String := [
  BuildSettings.outputDirVariable, BuildSettings.crateNameVariable, BuildSettings.runtimeCrateVariable,
  BuildSettings.compilerCheckVariable] ++ PathOption.all.filterMap PathOption.standIn?

def readVariables : IO Variables :=
  variableNames.foldlM (fun vs name => do
    match ← IO.getEnv name with
    | some value => return vs.insert name value
    | none => return vs) NameMap.empty

def pathsOf (vars : Variables) (a : Arguments) : List String :=
  let settings : BuildSettings := {}
  a.models ++ a.paths.map Prod.snd ++
    [(vars.get? BuildSettings.outputDirVariable).getD settings.outputDir]

/-- the part of the disk that a run looks at -/
def snapshot (vars : Variables) (arguments : List String) : IO Tree := do
  let here := (Text.pieces '/' (← IO.currentDir).toString.toList).filter Spelling.isPart
  let place := here.map String.ofList
  let t ← takeAround { here := place } place.length place
  let vars := Program.loadVariables vars t
  match Arguments.read? vars arguments with
  | none => return t
  | some a => (pathsOf vars a).foldlM takePath t

end ProcessBuild.Disk

open ProcessBuild in
def main (arguments : List String) : IO UInt32 := do
  let vars ← Disk.readVariables
  let before ← Disk.snapshot vars arguments
  match Program.run vars arguments (fun _ => none) before with
  | none =>
    IO.eprintln "usage: models and options"
    return 2
  | some r =>
    Disk.writeBack before r.state.tree
    IO.eprint r.errors
    IO.print r.standard
    return UInt32.ofNat r.exitCode
