/-
The REST resource of a process: its routes for instances and, with human tasks, for tasks.
-/
import ProcessBuild.Generation.Artifact

namespace ProcessBuild.Generation

/-- a route: the method, what follows the base path, and the operation -/
structure Route where
  method : String
  tail : String
  operation : String
  deriving DecidableEq, Repr

def instanceRoutes : List Route := [
  ⟨"Post", "", "create_instance"⟩,
  ⟨"Get", "", "list_instances"⟩,
  ⟨"Get", "/\x7bid\x7d", "get_instance"⟩,
  ⟨"Put", "/\x7bid\x7d", "update_instance"⟩,
  ⟨"Delete", "/\x7bid\x7d", "abort_instance"⟩]

/-- the routes of processes with human tasks -/
def taskRoutes : List Route := [
  ⟨"Get", "/\x7bid\x7d/tasks", "list_tasks"⟩,
  ⟨"Post", "/\x7bid\x7d/tasks/\x7btask_id\x7d", "complete_task"⟩]

def routes (m : ProcessModel) : List Route := instanceRoutes ++ if m.hasHumanTasks then taskRoutes else []

/-- the path under which a process is reached -/
def basePath (processId : String) : String := "/" ++ processId

/-- a route as an element of the list that the resource returns -/
def Route.line (r : Route) (processId : String) : String :=
  "            Route::new(Method::" ++ r.method ++ ", " ++ Text.literal (basePath processId ++ r.tail) ++ ", \"" ++
    r.operation ++ "\"),"

def restSource (runtime : String) (m : ProcessModel) : String :=
  let name := Source.processTypeName m.id
  let scopeModule := (Source.moduleName (Source.processPath m.id)).getD ""
  joinLines ([
    "//! REST resource exposing the `" ++ commentText m.id ++ "` process.",
    "",
    "use " ++ runtime ++ "::prelude::*;",
    "use " ++ runtime ++ "::rest::\x7bMethod, RestResource, Route\x7d;",
    "",
    "use crate::" ++ scopeModule ++ "::" ++ name ++ ";",
    "",
    "/// REST endpoints of `" ++ commentText m.id ++ "`.",
    "pub struct " ++ name ++ "Resource;",
    "",
    "impl RestResource for " ++ name ++ "Resource \x7b",
    "    type Scope = " ++ name ++ ";",
    "",
    "    const BASE_PATH: &'static str = " ++ Text.literal (basePath m.id) ++ ";",
    "",
    "    fn routes() -> Vec<Route> \x7b",
    "        vec!["] ++
    (routes m).map (fun r => r.line m.id) ++ [
    "        ]",
    "    \x7d",
    "\x7d"])

end ProcessBuild.Generation
