/-
The start-up hook that registers the cloud event extensions, generated where messaging is available.
-/
import ProcessBuild.Generation.Artifact

namespace ProcessBuild.Generation

/-- the source file of the hook -/
def messagingPath : String := "messaging/initializer.rs"

/-- the extensions in the order of their registration -/
def extensions : List String := ["BaseExtension", "PredictionsExtension", "ProcessExtension", "RulesExtension"]

def messagingSource (runtime : String) : String :=
  joinLines ([
    "//! Registers the cloud-event extensions used by process messaging.",
    "",
    "use " ++ runtime ++ "::cloudevents::\x7bself, " ++ String.intercalate ", " extensions ++ "\x7d;",
    "use " ++ runtime ++ "::startup::Startup;",
    "",
    "/// Startup hook registering the flowcanon cloud-event extensions.",
    "pub struct CloudEventExtensionInitializer;",
    "",
    "impl Startup for CloudEventExtensionInitializer \x7b",
    "    fn on_startup(&self) \x7b",
    "        cloudevents::register_json_format();"] ++
    extensions.map (fun e => "        cloudevents::register::<" ++ e ++ ">();") ++ [
    "    \x7d",
    "\x7d"])

end ProcessBuild.Generation
