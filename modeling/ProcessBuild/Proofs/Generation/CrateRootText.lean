/-
Reading a crate root from its text: the modules that it declares with their files, the ids of the processes, and the
calls that build them. A text that is put together otherwise is no crate root.
- `ofTokens?_crateRoot`: a generated crate root is read back from its tokens.
- `ofText?_crateRoot`: and from its text.
-/
import ProcessBuild.Proofs.Generation.CrateRoot
import ProcessBuild.Proofs.Source.LiteralValue
import ProcessBuild.Proofs.Source.Parts

namespace ProcessBuild.Generation

open Source

/-- what a crate root says: modules with their files, ids of processes, and calls of `build` by module and type -/
structure CrateRoot where
  modules : List (String × String)
  processIds : List String
  calls : List (String × String)
  deriving DecidableEq, Repr

/-! ## Reading -/

/-- the modules at the front of some tokens, with their files, and what comes after them -/
def declaredModules? : List Token → Option (List (String × String) × List Token)
  | .punct '#' false :: .group .bracket [.word "path", .punct '=' false, .literal file] :: .word "pub" :: .word "mod" ::
      .word name :: .punct ';' false :: rest => do
    let path ← stringValue file
    let (modules, rest) ← declaredModules? rest
    return ((path, name) :: modules, rest)
  | rest => some ([], rest)

def literalText? : List Token → Option String
  | [.literal s] => stringValue s
  | _ => none

/-- the module and the type of a call of `build` -/
def builtType? : List Token → Option (String × String)
  | [.word module, .punct ':' true, .punct ':' false, .word type, .punct ':' true, .punct ':' false, .word "build",
      .group .parenthesis []] => some (module, type)
  | _ => none

/-- the lists in the constant of the ids and in the function that builds every process -/
def processLists? : List Token → Option (List Token × List Token)
  | [.punct '#' false, .group .bracket _, .word "pub", .word "const", .word "PROCESS_IDS", .punct ':' false,
      .punct '&' false, .group .bracket [.punct '&' false, .word "str"], .punct '=' false, .punct '&' false,
      .group .bracket ids, .punct ';' false, .punct '#' false, .group .bracket _, .word "pub", .word "fn",
      .word "processes", .group .parenthesis [], .punct '-' true, .punct '>' false, .word "Vec", .punct '<' false,
      .word _, .punct ':' true, .punct ':' false, .word "prelude", .punct ':' true, .punct ':' false, .word "Process",
      .punct '>' false, .group .brace [.word "vec", .punct '!' false, .group .bracket calls]] => some (ids, calls)
  | _ => none

def CrateRoot.ofTokens? : List Token → Option CrateRoot
  | .punct '#' false :: .punct '!' false :: .group .bracket _ :: items => do
    let (modules, rest) ← declaredModules? items
    let (ids, calls) ← processLists? rest
    return { modules, processIds := ← (parts ids).mapM literalText?, calls := ← (parts calls).mapM builtType? }
  | _ => none

def CrateRoot.ofText? (source : String) : Option CrateRoot := (tokensOf? source).bind CrateRoot.ofTokens?

/-! ## Reading back -/

/-- the tokens of a crate root after its modules -/
def listTokens (runtime : String) (processIds : List String) : List Token :=
  Token.docLine " Identifiers of every process in this application." ++
    [Token.word "pub", .word "const", .word "PROCESS_IDS", .mark ':', .mark '&', .brackets [.mark '&', .word "str"],
      .mark '=', .mark '&', .brackets (Token.separated (processIds.map fun id => [.string id])), .mark ';'] ++
    Token.docLine " Build every process definition of this application." ++
    [Token.word "pub", .word "fn", .word "processes", .parens []] ++ Token.operator "->" ++
    [Token.word "Vec", .mark '<'] ++
    Token.path [runtime, "prelude", "Process"] ++ [Token.mark '>',
      .braces [.word "vec", .mark '!', .brackets (Token.separated (processIds.map buildCall))]]

theorem declaredModules?_tokens (modules : List (String × String)) (runtime : String) (processIds : List String) :
    declaredModules? (modules.flatMap moduleTokens ++ listTokens runtime processIds) =
      some (modules, listTokens runtime processIds) := by
  induction modules with
  | nil => rfl
  | cons m rest ih =>
    rw [List.flatMap_cons, List.append_assoc]
    show ((stringValue (Text.literal m.1)).bind fun path =>
      (declaredModules? (rest.flatMap moduleTokens ++ listTokens runtime processIds)).bind fun read =>
        some ((path, m.2) :: read.1, read.2)) = _
    rw [stringValue_literal, ih]
    rfl

theorem processLists?_tokens (runtime : String) (processIds : List String) :
    processLists? (listTokens runtime processIds) =
      some (Token.separated (processIds.map fun id => [.string id]), Token.separated (processIds.map buildCall)) :=
  rfl

theorem builtType?_buildCall (id : String) :
    builtType? (buildCall id) = some ("processes_" ++ fileStem id, processTypeName id) := by
  unfold buildCall
  rw [moduleName_processPath, Option.getD_some]
  rfl

theorem isPart_buildCall (id : String) : IsPart (buildCall id) :=
  ⟨List.cons_ne_nil _ _, by simp [buildCall, Token.path, Token.pathSeparator, Token.isComma, Token.parens]⟩

/-- **A crate root is read back** from its tokens. -/
theorem ofTokens?_crateRoot (runtime : String) (modules : List (String × String)) (processIds : List String) :
    CrateRoot.ofTokens? (crateRootTokens runtime modules processIds) =
      some ⟨modules, processIds, processIds.map fun id => ("processes_" ++ fileStem id, processTypeName id)⟩ := by
  have ids : (parts (Token.separated (processIds.map fun id => [.string id]))).mapM literalText? =
      some (processIds.map id) :=
    mapM_parts (fun id _ => ⟨List.cons_ne_nil _ _, List.forall_mem_singleton.2 rfl⟩) fun id _ => stringValue_literal id
  have calls := mapM_parts (fun id (_ : id ∈ processIds) => isPart_buildCall id) fun id _ => builtType?_buildCall id
  have items : crateRootTokens runtime modules processIds =
      .punct '#' false :: .punct '!' false :: .group .bracket
        [.word "doc", .mark '=', .string " Generated process application."] ::
          (modules.flatMap moduleTokens ++ listTokens runtime processIds) := by
    unfold crateRootTokens listTokens
    simp only [List.append_assoc]
    rfl
  rw [items]
  unfold CrateRoot.ofTokens?
  simp only [declaredModules?_tokens, processLists?_tokens, ids, calls, List.map_id, Option.bind_eq_bind, Option.bind_some]
  rfl

/-- **A crate root is read back** from its text. -/
theorem ofText?_crateRoot {runtime : String} {modules : List (String × String)} (isRuntime : IsName runtime.toList)
    (named : ∀ m ∈ modules, Identifier m.2) (processIds : List String) :
    CrateRoot.ofText? (text (crateRootTokens runtime modules processIds)) =
      some ⟨modules, processIds, processIds.map fun id => ("processes_" ++ fileStem id, processTypeName id)⟩ := by
  unfold CrateRoot.ofText?
  rw [tokensOf?_text (printable_crateRoot isRuntime named processIds)]
  exact ofTokens?_crateRoot runtime modules processIds

end ProcessBuild.Generation
