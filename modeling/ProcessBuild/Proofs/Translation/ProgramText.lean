/-
Reading a generated file from its text. The file is taken apart into the import of the runtime, the type of the process,
its id, and the body of `build`, whose first statement opens the factory and whose last line gives back the process. A
file that is put together otherwise describes nothing.
- `ofTokens?_program`: a generated file is read back from its tokens.
- `compile_meaning`: the text of a process that is translated describes its normal form.
-/
import ProcessBuild.Proofs.Builder.StatementText
import ProcessBuild.Proofs.Translation.Meaning
import ProcessBuild.Proofs.Translation.Spelling

namespace ProcessBuild.Translation

open Source Builder

/-! ## Reading files -/

/-- the id that the constant of a process holds -/
def processId? : List Token → Option String
  | [.word "const", .word "PROCESS_ID", .punct ':' false, .punct '&' false, .punct '\'' true, .word "static", .word "str",
      .punct '=' false, .literal id, .punct ';' false] => stringValue id
  | _ => none

def buildBody? : List Token → Option (List Token)
  | [.punct '#' false, .group .bracket _, .word "pub", .word "fn", .word "build", .group .parenthesis [],
      .punct '-' true, .punct '>' false, .word "Process", .group .brace body] => some body
  | _ => none

/-- the name of the factory that a body opens, the id of its process, and what comes after -/
def factory? : List Token → Option (String × String × List Token)
  | .word "let" :: .word factory :: .punct '=' false :: .word "ProcessFactory" :: .punct ':' true :: .punct ':' false ::
      .word "create_process" :: .group .parenthesis [.literal id] :: .punct ';' false :: rest =>
    (stringValue id).map fun id => (factory, id, rest)
  | _ => none

/-- the items of a generated file: what they name, the constant in the first implementation and the function in the other -/
structure FileParts where
  runtime : String
  typeName : String
  scopeType : String
  ownType : String
  constant : List Token
  function : List Token

def FileParts.ofTokens? : List Token → Option FileParts
  | [.word "use", .word runtime, .punct ':' true, .punct ':' false, .word "prelude", .punct ':' true, .punct ':' false,
      .punct '*' false, .punct ';' false, .punct '#' false, .group .bracket _, .word "pub", .word "struct",
      .word typeName, .punct ';' false, .word "impl", .word "ProcessScope", .word "for", .word scopeType,
      .group .brace constant, .word "impl", .word ownType, .group .brace function] =>
    some { runtime, typeName, scopeType, ownType, constant, function }
  | _ => none

/-- the generated file of its items; the type, the id and the factory have to be the same wherever they are named -/
def FileParts.program? (file : FileParts) : Option Program := do
  let named ← processId? file.constant
  let body ← buildBody? file.function
  let (factory, processId, rest) ← factory? body
  let (statements, result) ← statementsOf? rest
  guard (file.scopeType = file.typeName ∧ file.ownType = file.typeName ∧ named = processId ∧ result = factory)
  return { runtime := file.runtime, typeName := file.typeName, processId, factory, statements }

def Program.ofTokens? (tokens : List Token) : Option Program := (FileParts.ofTokens? tokens).bind FileParts.program?

def buildTokens (p : Program) : List Token :=
  Token.docLine " Build the executable process definition." ++ [Token.word "pub", .word "fn", .word "build", .parens []] ++
    Token.operator "->" ++ [Token.word "Process", .braces p.body]

theorem fileParts_program (p : Program) : FileParts.ofTokens? p.tokens =
    some ⟨p.runtime, p.typeName, p.typeName, p.typeName, Program.stringConstant "PROCESS_ID" p.processId, buildTokens p⟩ :=
  rfl

/-- **A generated file is read back** from its tokens. -/
theorem ofTokens?_program {p : Program} (h : p.Spells) : Program.ofTokens? p.tokens = some p := by
  have named : processId? (Program.stringConstant "PROCESS_ID" p.processId) = some p.processId :=
    stringValue_literal p.processId
  have body : buildBody? (buildTokens p) = some p.body := rfl
  have opened : factory? p.body = some (p.factory, p.processId, tokensOf p.statements ++
      [.word p.factory, .mark '.', .word "get_process", .parens []]) :=
    congrArg (Option.map fun id => (p.factory, id, _)) (stringValue_literal p.processId)
  have statements := statementsOf?_tokens h.statements p.factory
  unfold Program.ofTokens?
  rw [fileParts_program, Option.bind_some]
  unfold FileParts.program?
  simp only [named, body, opened, statements, Option.bind_eq_bind, Option.bind_some, guard, and_self, if_true]
  rfl

/-! ## The text of a process -/

/-- the process that the text of a generated file describes -/
def meaning (source : String) : Option ProcessModel := ((tokensOf? source).bind Program.ofTokens?).bind Program.meaning

/-- **Semantic preservation.** A process that is translated means its normal form: executing the statements in the text
of its generated file against a recording factory, and reading what is recorded, gives back the process with its nodes
in their order and nesting, each with all that its kind carries, its connections, its supported metadata and the first
declaration of each of its variables. -/
theorem compile_meaning {kinds : Kinds} {m : ProcessModel} {runtime content : String}
    (h : compileText m kinds runtime = .ok content) : meaning content = some (normalForm m) := by
  obtain ⟨p, compiled, rfl⟩ := map_eq_ok_iff.1 h
  have spells := spells_compile compiled
  unfold meaning
  rw [tokensOf?_text (printable_program spells), Option.bind_some, ofTokens?_program spells, Option.bind_some]
  exact meaning_of_compile compiled

/-- a process with a variable that is declared twice, a sub-process, and metadata that generated code cannot carry -/
def orderProcess : ProcessModel where
  id := "order"
  name := some "Order"
  packageName := none
  version := some "1.0"
  nodes := [
    .activity ⟨1, none, NameMap.empty, none⟩ (.start none),
    .subProcess ⟨2, some "Ship", NameMap.empty.insert "weight" (.other .null), some [⟨"total", "String", none⟩]⟩
      [.activity ⟨1, none, NameMap.empty, none⟩ (.workItem "Pack" (NameMap.empty.insert "fragile" (.boolean true)))] []
      true,
    .activity ⟨3, none, NameMap.empty, none⟩ (.finish false)]
  connections := [⟨1, 2, none⟩, ⟨2, 3, some "done"⟩]
  vars := [⟨"total", "Integer", none⟩]
  metadata := NameMap.empty.insert "owner" (.text "sales")

theorem orderProcess_meaning : ∃ content, compileText orderProcess Kinds.full "runtime" = .ok content ∧
    meaning content = some (normalForm orderProcess) := by
  have translated : (compileText orderProcess Kinds.full "runtime").toBool = true := rfl
  cases e : compileText orderProcess Kinds.full "runtime" with
  | error f =>
    rw [e] at translated
    cases translated
  | ok content => exact ⟨content, rfl, compile_meaning e⟩

end ProcessBuild.Translation
