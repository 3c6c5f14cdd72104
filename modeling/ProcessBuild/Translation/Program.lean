/-
The source file generated for a process: the import of the runtime, the type of the process with its id, and its
`build` function, whose body opens the factory, runs the builder statements and returns the process.
-/
import ProcessBuild.Translation.Node

namespace ProcessBuild.Translation

open Source Builder

structure Program where
  runtime : String
  typeName : String
  processId : String
  factory : String
  statements : List Statement
  deriving DecidableEq, Repr

/-- the calls for the name, the package and the version of a process -/
def headerCalls (m : ProcessModel) (factory : String) : List Statement :=
  optionalCall factory "name" m.name ++ optionalCall factory "package_name" m.packageName ++
    optionalCall factory "version" m.version

/-- the generated file of a process, its statements ending with the factory's validation -/
def program (kinds : Kinds) (m : ProcessModel) (runtime : String) : Translate Program := do
  let c ← get
  let factory := c.target
  let vars ← declareVariables factory m.vars
  let nodes ← emitNodes kinds m.nodes m.connections
  return {
    runtime := identifierOf runtime, typeName := identifierOf c.scopeClass, processId := m.id, factory
    statements := headerCalls m factory ++ metadataCalls factory m.metadata ++ vars ++ nodes ++
      [.call factory "validate" []] }

namespace Program

def stringConstant (name value : String) : List Token :=
  [Token.word "const", .word name, .mark ':', .mark '&'] ++ Token.lifetime "static" ++
    [Token.word "str", .mark '=', .string value, .mark ';']

def body (p : Program) : List Token :=
  [Token.word "let", .word p.factory, .mark '='] ++ Token.path ["ProcessFactory", "create_process"] ++
    [Token.parens [.string p.processId], .mark ';'] ++ tokensOf p.statements ++
    [Token.word p.factory, .mark '.', .word "get_process", .parens []]

def tokens (p : Program) : List Token :=
  Token.word "use" :: Token.path [p.runtime, "prelude"] ++ Token.pathSeparator ++ [Token.mark '*', .mark ';'] ++
    [Token.mark '#', .brackets [.word "doc", .mark '=',
      .string (" Builder for the `" ++ p.processId ++ "` process.")]] ++
    [Token.word "pub", .word "struct", .word p.typeName, .mark ';'] ++
    [Token.word "impl", .word "ProcessScope", .word "for", .word p.typeName,
      .braces (stringConstant "PROCESS_ID" p.processId)] ++
    [Token.word "impl", .word p.typeName, .braces (Token.docLine " Build the executable process definition." ++
      [Token.word "pub", .word "fn", .word "build", .parens []] ++ Token.operator "->" ++
      [Token.word "Process", .braces p.body])]

end Program

def Context.ofProcess (m : ProcessModel) : Context := { scopeClass := processTypeName m.id }

/-- the generated file of a process, or the first fault -/
def compile (m : ProcessModel) (kinds : Kinds) (runtime : String) : Except Fault Program :=
  (program kinds m runtime).run (Context.ofProcess m) |>.1

/-- the text of the generated file of a process, or the first fault -/
def compileText (m : ProcessModel) (kinds : Kinds) (runtime : String) : Except Fault String :=
  (compile m kinds runtime).map fun p => Source.text p.tokens

end ProcessBuild.Translation
