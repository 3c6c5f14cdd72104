/-
The context of a translation: the builder that calls go to, the containers around the current one, the nodes declared
in each of them, and the variables declared so far. A step of translation may fail; what it changed in the context
before it failed stays changed, so containers are left by the steps that entered them.
-/
import ProcessBuild.Translation.Fault
import ProcessBuild.Source.Naming
import ProcessBuild.Builder.Statement

namespace ProcessBuild.Translation

open Builder

/-- where a translation stands -/
structure Context where
  /-- names of the variables declared so far -/
  visited : NameSet := NameSet.empty
  /-- the name bound to the builder that calls go to -/
  target : String := "factory"
  /-- the type whose class loader resolves the types of variables -/
  scopeClass : String
  /-- the sub-processes around the current container, the outermost first -/
  containers : List NodeId := []
  /-- the nodes declared in the containers, the innermost first -/
  siblings : List (List NodeId) := []
  deriving DecidableEq

/-- a step of translation -/
abbrev Translate := ExceptT Fault (StateM Context)

namespace Context

/-- the path of the scope class, segment by segment -/
def scopePath (c : Context) : List String := Source.pathSegments c.scopeClass

/-- the number of a node with the numbers of the containers around it -/
def uniqueId (c : Context) (id : NodeId) : String :=
  String.intercalate ":" ((c.containers ++ [id]).map toString)

/-- the name that the builder of a node is bound to -/
def builderName (c : Context) (start : String) (id : NodeId) : String :=
  Source.identifierOf (String.intercalate "_" (start :: (c.containers ++ [id]).map toString))

/-- whether a node is declared in the innermost container -/
def isSibling (c : Context) (id : NodeId) : Bool :=
  match c.siblings with
  | [] => false
  | ids :: _ => ids.contains id

/-- make a list of nodes the innermost container -/
def enter (c : Context) (ids : List NodeId) : Context := { c with siblings := ids :: c.siblings }

def leave (c : Context) : Context := { c with siblings := c.siblings.tail }

end Context

/-- run a step among the nodes of a container, and leave the container whether or not the step fails -/
def among {α : Type} (ids : List NodeId) (step : Translate α) : Translate α := fun c =>
  let (result, c') := step (c.enter ids)
  (result, c'.leave)

/-- run a step inside a sub-process, whose builder its calls go to, and come back whether or not the step fails -/
def within {α : Type} (id : NodeId) (target : String) (step : Translate α) : Translate α := fun c =>
  let (result, c') := step { c with target, containers := c.containers ++ [id] }
  (result, { c' with target := c.target, containers := c'.containers.dropLast })

end ProcessBuild.Translation
