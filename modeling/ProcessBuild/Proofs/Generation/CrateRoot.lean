/-
The crate root and the marker for hot reload as source text. Both are spelled from tokens; whatever the ids of the
processes are, the root is read as declarations of modules, a list of constants and a function, and the marker as its
type alone.
- `readFile_crateRoot`, `readFile_hotReload`: what the files are read as.
- `crateRoot_refused`: the crate root is not read where the runtime crate has a name that no type can start with.
-/
import ProcessBuild.Generation.CrateRoot
import ProcessBuild.Generation.HotReload
import ProcessBuild.Proofs.Translation.Spelling

namespace ProcessBuild.Generation

open Source Grammar Translation

/-! ## Crate root -/

/-- the literal that stands for a documentation line -/
def rawLine (text : String) : String := "r\"" ++ text ++ "\""

/-- the tokens of the function that builds every process -/
def processesTokens (runtime : String) (processIds : List String) : List Token :=
  marking "doc" (rawLine " Build every process definition of this application.") ++
    Token.word "pub" :: ([Token.word "fn", .word "processes", .parens []] ++ arrow ++ ([Token.word "Vec", .mark '<'] ++
      (Token.path [runtime, "prelude", "Process"] ++ [Token.mark '>'])) ++
        [Token.braces [.word "vec", .mark '!', .brackets (Token.separated (processIds.map buildCall))]])

/-- the tokens of the modules and constants of a crate root by its items, and the items -/
def declarationChunks (modules : List (String × String)) (processIds : List String) : List (List Token × Item) :=
  modules.map (fun m => (moduleTokens m, .other)) ++ [
    (marking "doc" (rawLine " Identifiers of every process in this application.") ++
      ([Token.word "pub", .word "const", .word "PROCESS_IDS", .mark ':', .mark '&', .brackets [.mark '&', .word "str"],
        .mark '='] ++
        ([Token.mark '&', .brackets (Token.separated (processIds.map fun id => [.string id]))] ++ [Token.mark ';'])),
      .other)]

/-- the tokens of a crate root by its items, and the items -/
def crateRootChunks (runtime : String) (modules : List (String × String)) (processIds : List String) :
    List (List Token × Item) :=
  declarationChunks modules processIds ++ [(processesTokens runtime processIds, .other)]

theorem tokens_crateRoot (runtime : String) (modules : List (String × String)) (processIds : List String) :
    crateRootTokens runtime modules processIds =
      heading (Text.literal " Generated process application.") ++
        (crateRootChunks runtime modules processIds).flatMap Prod.fst := by
  unfold crateRootTokens crateRootChunks declarationChunks
  rw [List.flatMap_append, List.flatMap_append, List.flatMap_map]
  simp only [List.append_assoc, List.flatMap_cons, List.flatMap_nil]
  rfl

variable {runtime : String} {modules : List (String × String)}

theorem isItem_declarations (named : ∀ m ∈ modules, Identifier m.2) (processIds : List String) :
    ∀ x ∈ declarationChunks modules processIds, IsItem x.1 x.2 := by
  have literals : ∀ ts ∈ processIds.map fun id => [Token.string id], IsOperand 1 ts := by
    intro ts hts
    obtain ⟨id, -, rfl⟩ := List.mem_map.1 hts
    exact isOperand_literal _
  refine List.forall_mem_append.2 ⟨fun x hx => ?_, List.forall_mem_singleton.2 ?_⟩
  · obtain ⟨m, hm, rfl⟩ := List.mem_map.1 hx
    exact (isItem_module (named m hm).free).attributed (.path _)
  · exact (isItem_constants literals Nat.one_pos (by decide)).attributed (.doc _)

theorem isItem_crateRoot (starts : startsPath runtime = true) (named : ∀ m ∈ modules, Identifier m.2)
    (processIds : List String) : ∀ x ∈ crateRootChunks runtime modules processIds, IsItem x.1 x.2 := by
  have free : ∀ w ∈ ["prelude", "Process"], isFreeWord w = true := by decide
  refine List.forall_mem_append.2 ⟨isItem_declarations named processIds, List.forall_mem_singleton.2 ?_⟩
  exact (isItem_function (isSignature_processes starts free) (isBody_vec _) (by decide)).attributed (.doc _)

/-- the function cannot be read where its result type starts with `try`, which may start a use -/
theorem isRefused_processes (processIds : List String) : IsRefused (processesTokens "try" processIds) := by
  refine ⟨⟨_, "pub", _, .doc _, rfl⟩, fun n deep trees c tokens => ?_⟩
  obtain ⟨k, rfl⟩ : ∃ k, n = k + 16 := Nat.exists_eq_add_of_le' deep
  rw [eq_plant tokens]
  exact ⟨_, rfl⟩

theorem printable_buildCall (id : String) : Printable (buildCall id) := by
  unfold buildCall
  rw [moduleName_processPath, Option.getD_some]
  refine (printable_path (List.forall_mem_cons.2 ⟨?_, List.forall_mem_cons.2 ⟨isName_processTypeName id,
    List.forall_mem_singleton.2 (isName_of_text rfl)⟩⟩)).append (printable_group (printable_nil.2 trivial))
  rw [String.toList_append]
  exact (isName_of_text rfl : IsName "processes_".toList).append (isName_fileStem id).chars

theorem printable_crateRoot (isRuntime : IsName runtime.toList) (named : ∀ m ∈ modules, Identifier m.2)
    (processIds : List String) : Printable (crateRootTokens runtime modules processIds) := by
  have doc : IsName "doc".toList := isName_of_text rfl
  have path : Printable (Token.path [runtime, "prelude", "Process"]) :=
    printable_path (List.forall_mem_cons.2 ⟨isRuntime, List.forall_mem_cons.2 ⟨isName_of_text rfl,
      List.forall_mem_singleton.2 (isName_of_text rfl)⟩⟩)
  have texts : Printable (Token.separated (processIds.map fun id => [.string id])) := by
    refine printable_separated fun ts hts => ?_
    obtain ⟨id, -, rfl⟩ := List.mem_map.1 hts
    exact printable_string id
  have calls : Printable (Token.separated (processIds.map buildCall)) := by
    refine printable_separated fun ts hts => ?_
    obtain ⟨id, -, rfl⟩ := List.mem_map.1 hts
    exact printable_buildCall id
  -- the heading, and then item by item: the modules, the constant and the function
  rw [tokens_crateRoot]
  refine (printable_heading (isLiteral_string _)).append (printable_flatMap (List.forall_mem_append.2
    ⟨List.forall_mem_append.2 ⟨fun x hx => ?_, List.forall_mem_singleton.2 ?_⟩, List.forall_mem_singleton.2 ?_⟩))
  · obtain ⟨m, hm, rfl⟩ := List.mem_map.1 hx
    exact printable_marking (isName_of_text rfl) (isLiteral_string _) ((printable_of_isPlain [.word "pub", .word "mod"]
      rfl).append ((printable_word (named m hm).name).append (printable_mark rfl)))
  · refine printable_marking doc (isLiteral_raw (forall_chars (by decide))) ((printable_of_isPlain _ rfl).append ?_)
    exact ((printable_of_isPlain [.mark '&'] rfl).append (printable_group texts)).append (printable_mark rfl)
  · refine printable_marking doc (isLiteral_raw (forall_chars (by decide)))
      ((printable_of_isPlain [.word "pub"] rfl).append ?_)
    refine ((printable_of_isPlain ([Token.word "fn", .word "processes", .parens []] ++ arrow ++
        [Token.word "Vec", .mark '<'])
      rfl).append (path.append (printable_of_isPlain [.mark '>'] rfl))).append (printable_group ?_)
    exact (printable_of_isPlain [.word "vec", .mark '!'] rfl).append (printable_group calls)

theorem startsPlain_crateRoot (runtime : String) (modules : List (String × String)) (processIds : List String) :
    startsPlain (text (crateRootTokens runtime modules processIds)).toList = true := by
  unfold text
  rw [String.toList_ofList]
  rfl

/-- **The crate root** declares no types. -/
theorem readFile_crateRoot (name : IsName runtime.toList) (starts : startsPath runtime = true)
    (named : ∀ m ∈ modules, Identifier m.2) (processIds : List String) :
    readFile (text (crateRootTokens runtime modules processIds)) =
      .ok (modules.map (fun _ => .other) ++ [.other, .other]) := by
  obtain ⟨trees, lexed, tokens⟩ := trees_text (printable_crateRoot name named processIds)
  have read := readFile_of_items (startsPlain_crateRoot runtime modules processIds) lexed
    (tokens.trans (tokens_crateRoot runtime modules processIds)) (.doc _) (isItem_crateRoot starts named processIds)
  rw [read, crateRootChunks, declarationChunks, List.map_append, List.map_append, List.map_map, List.append_assoc]
  rfl

/-- **The crate root is refused** where the runtime is called `try`. -/
theorem crateRoot_refused (named : ∀ m ∈ modules, Identifier m.2) (processIds : List String) :
    ∃ fault, readFile (text (crateRootTokens "try" modules processIds)) = .error fault := by
  have name : IsName "try".toList := isName_of_text rfl
  obtain ⟨trees, lexed, tokens⟩ := trees_text (printable_crateRoot name named processIds)
  have whole := tokens.trans (tokens_crateRoot "try" modules processIds)
  rw [crateRootChunks, List.flatMap_append, List.flatMap_singleton] at whole
  exact readFile_of_refused (startsPlain_crateRoot "try" modules processIds) lexed whole (.doc _)
    (isItem_declarations named processIds) (isRefused_processes processIds)

/-! ## Marker for hot reload -/

def hotReloadChunks (id : String) : List (List Token × Item) := [
  (marking "doc" (rawLine " Marker whose id changes with the process models.") ++
    [Token.word "pub", .word "struct", .word "HotReloadSupport", .mark ';'], .struct "HotReloadSupport"),
  ([.word "impl", .word "HotReloadSupport", .braces (
    marking "doc" (rawLine " Digest of the process models this crate was generated from.") ++
      Token.word "pub" :: constantTokens false "ID" (Text.literal id))], .other)]

theorem tokens_hotReload (id : String) : hotReloadTokens id = (hotReloadChunks id).flatMap Prod.fst := by
  simp only [hotReloadChunks, List.flatMap_cons, List.flatMap_nil]
  rfl

/-- **The marker for hot reload** declares its type. -/
theorem readFile_hotReload (models : List ProcessModel) :
    readFile (hotReloadSource models) = .ok [.struct "HotReloadSupport", .other] := by
  unfold hotReloadSource
  generalize Sha256.digest (modelBytes models) = id
  have doc : IsName "doc".toList := isName_of_text rfl
  have constants : ∀ x ∈ [(marking "doc" (rawLine " Digest of the process models this crate was generated from.") ++
      Token.word "pub" :: constantTokens false "ID" (Text.literal id), (none : Option (Option Path)))],
      IsImplItem x.1 x.2 :=
    List.forall_mem_singleton.2 (isImplItem_documented _ _)
  have items : ∀ x ∈ hotReloadChunks id, IsItem x.1 x.2 := List.forall_mem_cons.2
    ⟨(isItem_struct rfl).attributed (.doc _), List.forall_mem_singleton.2 (isItem_inherent rfl constants).item⟩
  have printable : Printable (hotReloadTokens id) := by
    rw [tokens_hotReload]
    refine printable_flatMap (List.forall_mem_cons.2 ⟨?_, List.forall_mem_singleton.2 ?_⟩)
    · exact printable_marking doc (isLiteral_raw (forall_chars (by decide))) (printable_of_isPlain _ rfl)
    · refine (printable_of_isPlain [.word "impl", .word "HotReloadSupport"] rfl).append (printable_group ?_)
      exact printable_marking doc (isLiteral_raw (forall_chars (by decide)))
        ((printable_of_isPlain [.word "pub"] rfl).append
        (printable_constant rfl id))
  obtain ⟨trees, lexed, tokens⟩ := trees_text printable
  have plain : startsPlain (text (hotReloadTokens id)).toList = true := by
    unfold text
    rw [String.toList_ofList]
    rfl
  have whole : Tree.tokens trees = [] ++ (hotReloadChunks id).flatMap Prod.fst := tokens.trans (tokens_hotReload id)
  exact readFile_of_items plain lexed whole .none items

end ProcessBuild.Generation
