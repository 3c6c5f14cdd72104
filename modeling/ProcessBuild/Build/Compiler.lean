/-
The check of the generated crate by an external compiler. What the compiler answers to a call is a parameter; where
there is no compiler, it answers nothing.
-/
import ProcessBuild.Build.Diagnosis
import ProcessBuild.Files.Path
import ProcessBuild.TypeIndex.Codec

namespace ProcessBuild

/-- a call of the external compiler: the directory that it works in, and its arguments -/
structure CompilerCall where
  directory : String
  arguments : List String
  deriving DecidableEq, Repr

/-- what the external compiler answers -/
structure CompilerAnswer where
  succeeded : Bool
  report : String
  deriving DecidableEq, Repr

/-- an external compiler, if there is one -/
abbrev ExternalCompiler := CompilerCall → Option CompilerAnswer

namespace CompilerCall

/-- where the compiler puts what it makes -/
def targetDir (outputDir : String) : String := Files.join outputDir "target"

def rootFile (outputDir : String) : String := Files.join outputDir Source.crateRoot

def searchArguments (directories : List String) : List String :=
  directories.flatMap fun d => ["-L", "dependency=" ++ d]

def crateArguments (crates : NameMap String) : List String :=
  crates.entries.flatMap fun c => ["--extern", c.1 ++ "=" ++ c.2]

/-- the call that checks the crate in an output directory -/
def ofCrate (crateName outputDir : String) (closure : DependencyClosure) : CompilerCall :=
  { directory := outputDir
    arguments :=
      ["--crate-type=lib", "--edition=2024", "--emit=metadata", "--crate-name", crateName,
        "--out-dir", targetDir outputDir] ++
      searchArguments closure.libraryDirs ++ crateArguments closure.externs ++ [rootFile outputDir] }

end CompilerCall
end ProcessBuild
