/-
The arguments of the command line: the models, as files or directories, and options for other files. An option takes
its value from the next argument or from behind a sign of equality, and may come once; most options can also be given
by an environment variable. Behind `--` every argument is a model.
-/
import ProcessBuild.Build.Settings
import ProcessBuild.Text.Search

namespace ProcessBuild

/-- an option with a path as its value -/
inductive PathOption where
  | environment
  | closure
  | reflectionTable
  | output
  deriving DecidableEq, Repr

namespace PathOption

def all : List PathOption := [environment, closure, reflectionTable, output]

def name : PathOption → String
  | environment => "environment"
  | closure => "closure"
  | reflectionTable => "reflection-table"
  | output => "output"

/-- the variable that may stand in for an option -/
def standIn? : PathOption → Option String
  | environment => some "FLOWCANON_ENVIRONMENT"
  | closure => some "FLOWCANON_CLOSURE"
  | reflectionTable => some "FLOWCANON_REFLECTION_TABLE"
  | output => none

end PathOption

/-- what the arguments say -/
structure Arguments where
  models : List String := []
  paths : List (PathOption × String) := []
  compilerCheck : Bool := false
  deriving DecidableEq, Repr

namespace Arguments

def checkSwitch : String := "rustc-check"

def path? (a : Arguments) (o : PathOption) : Option String := (a.paths.find? (·.1 = o)).map Prod.snd

/-- give an option its path; a path is not empty, and an option has one -/
def setPath? (a : Arguments) (o : PathOption) (path : String) : Option Arguments :=
  if path.isEmpty || (a.path? o).isSome then none else some { a with paths := a.paths ++ [(o, path)] }

def addModel? (a : Arguments) (path : String) : Option Arguments :=
  if path.isEmpty then none else some { a with models := a.models ++ [path] }

/-- switch the compiler check on, once -/
def setCheck? (a : Arguments) : Option Arguments :=
  if a.compilerCheck then none else some { a with compilerCheck := true }

/-- whether an argument is an option rather than a value; a single hyphen is a value -/
def isOption (s : String) : Bool := s.toList.head? = some '-' && s ≠ "-"

/-- the name of a long option, and the value attached to it -/
def longOption? (s : String) : Option (String × Option String) := do
  let rest ← Text.afterStart? ['-', '-'] s.toList
  match Text.pieces '=' rest with
  | [] => none
  | [name] => return (String.ofList name, none)
  | name :: value => return (String.ofList name, some (String.ofList (Text.joinPieces '=' value)))

/-- read arguments one after the other; `models` when only models are left -/
def readFrom (a : Arguments) (models : Bool) : List String → Option Arguments
  | [] => some a
  | s :: rest =>
    if models then (a.addModel? s).bind fun a => readFrom a true rest
    else if s = "--" then readFrom a true rest
    else if !isOption s then (a.addModel? s).bind fun a => readFrom a false rest
    else
      match longOption? s with
      | none => none
      | some (name, attached) =>
        match PathOption.all.find? (·.name = name), attached, rest with
        | some o, some value, rest => (a.setPath? o value).bind fun a => readFrom a false rest
        | some o, none, value :: rest =>
          if isOption value then none else (a.setPath? o value).bind fun a => readFrom a false rest
        | some _, none, [] => none
        | none, none, rest =>
          if name = checkSwitch then a.setCheck?.bind fun a => readFrom a false rest else none
        | none, some _, _ => none

/-- take the path of an option from its variable, unless the arguments give it -/
def completePath? (vars : Variables) (a : Arguments) (o : PathOption) : Option Arguments :=
  match a.path? o, o.standIn?.bind vars.get? with
  | none, some value => a.setPath? o value
  | _, _ => some a

/-- what the arguments and the variables say; none when they cannot be used, as without a model -/
def read? (vars : Variables) (arguments : List String) : Option Arguments := do
  let a ← readFrom {} false arguments
  let a ← PathOption.all.foldlM (completePath? vars) a
  if a.models.isEmpty then none else some a

end Arguments
end ProcessBuild
