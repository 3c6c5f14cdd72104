/-
The two files that list every process. The root of the generated crate has a module for each source file, the ids of the
processes and a function that builds every process; the manifest is a resource that tells where each process is found.
Both go by the order of the ids.
-/
import ProcessBuild.Generation.HotReload

namespace ProcessBuild.Generation

open Source

/-- the modules of source files, the crate root left out, with the files they are in -/
def crateModules (sources : List String) : List (String × String) :=
  sources.filterMap fun path => (moduleName path).map fun m => (path, m)

def moduleTokens (m : String × String) : List Token :=
  [.mark '#', .brackets [.word "path", .mark '=', .string m.1], .word "pub", .word "mod", .word m.2, .mark ';']

def buildCall (processId : String) : List Token :=
  Token.path [(moduleName (processPath processId)).getD "", processTypeName processId, "build"] ++ [Token.parens []]

def crateRootTokens (runtime : String) (modules : List (String × String)) (processIds : List String) : List Token :=
  [Token.mark '#', .mark '!', .brackets [.word "doc", .mark '=', .string " Generated process application."]] ++
    modules.flatMap moduleTokens ++
    Token.docLine " Identifiers of every process in this application." ++
    [Token.word "pub", .word "const", .word "PROCESS_IDS", .mark ':', .mark '&', .brackets [.mark '&', .word "str"],
      .mark '=', .mark '&', .brackets (Token.separated (processIds.map fun id => [.string id])), .mark ';'] ++
    Token.docLine " Build every process definition of this application." ++
    [Token.word "pub", .word "fn", .word "processes", .parens []] ++ Token.operator "->" ++
    [Token.word "Vec", .mark '<'] ++
    Token.path [runtime, "prelude", "Process"] ++ [Token.mark '>',
      .braces [.word "vec", .mark '!', .brackets (Token.separated (processIds.map buildCall))]]

/-- the crate root, or the first module name that is no identifier -/
def crateRootSource (runtime : String) (sources processIds : List String) : Except BuildError String :=
  let modules := crateModules sources
  match modules.find? fun m => !isIdentifier m.2 with
  | some m => .error (.unusableModuleName m.2)
  | none => .ok (Source.text (crateRootTokens runtime modules processIds))

/-! ## Manifest -/

def manifestPath : String := "META-INF/processes.json"

def manifestEntry (crateName : String) (m : ProcessModel) : Json :=
  let source := Source.processPath m.id
  .object (("id", .string m.id) :: optionalMember "name" m.name ++ optionalMember "packageName" m.packageName ++
    optionalMember "version" m.version ++
    [("type", .string (Source.modulePath crateName source ++ "::" ++ Source.processTypeName m.id)),
      ("source", .string source)])

def manifestText (crateName : String) (models : List ProcessModel) : String :=
  Json.pretty (.array ((modelsById models).map (manifestEntry crateName)))

end ProcessBuild.Generation
