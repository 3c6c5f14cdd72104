/-
The start-up hook of messaging as source text: its imports, its type and the implementation of its trait.
- `toList_messagingSource`: the pieces of the file.
- `readFile_messagingSource`: the items of the file.
-/
import ProcessBuild.Generation.Messaging
import ProcessBuild.Proofs.Generation.Lines
import ProcessBuild.Proofs.Source.Functions
import ProcessBuild.Proofs.Source.Layout

namespace ProcessBuild.Generation

open Source Grammar Lexer

def hookName : String := "CloudEventExtensionInitializer"

def messagingPieces (runtime : String) : List Piece := [
  .doc true " Registers the cloud-event extensions used by process messaging.".toList, gap "\n\n",
  .word "use", space, .word runtime, .punct ':' true, .punct ':' false, .word "cloudevents", .punct ':' true,
  .punct ':' false, .group .brace (.word "self" :: extensions.flatMap fun e => [.punct ',' false, space, .word e]),
  .punct ';' false, gap "\n",
  .word "use", space, .path [runtime, "startup", "Startup"], .punct ';' false, gap "\n\n",
  .doc false " Startup hook registering the flowcanon cloud-event extensions.".toList, gap "\n",
  .word "pub", space, .word "struct", space, .word hookName, .punct ';' false, gap "\n\n",
  .word "impl", space, .word "Startup", space, .word "for", space, .word hookName, space, .group .brace [gap "\n    ",
    .word "fn", space, .word "on_startup", .group .parenthesis [.punct '&' false, .word "self"], space,
    .group .brace ([gap "\n        ", .path ["cloudevents", "register_json_format"], .group .parenthesis [],
      .punct ';' false] ++ extensions.flatMap (fun e => [gap "\n        ", .path ["cloudevents", "register"],
        .punct ':' true, .punct ':' true, .punct '<' false, .word e, .punct '>' false, .group .parenthesis [],
        .punct ';' false]) ++ [gap "\n    "]), gap "\n"]]

-- the text is compared character by character
set_option maxRecDepth 4000 in
/-- **The hook** is laid out in its pieces. -/
theorem toList_messagingSource (runtime : String) :
    (messagingSource runtime).toList = spellAll (messagingPieces runtime) := by
  unfold messagingSource
  simp only [List.cons_append, List.nil_append, toList_joinLines]
  simp [messagingPieces, extensions, hookName, pathChars, spellAll, Piece.spell, gap, space, opener,
    closer]

/-- **The hook** fits together. -/
theorem fits_messaging {runtime : String} (runtimeName : IsName runtime.toList) : Fits [] (messagingPieces runtime) := by
  refine fits_of_areSetOff _ rfl ?_
  simp only [messagingPieces, extensions, AreSound, Piece.IsSound, gap, space, List.forall_mem_cons, List.not_mem_nil,
    false_imp_iff, implies_true, runtimeName, true_and, and_true, List.flatMap_cons, List.flatMap_nil, List.cons_append,
    List.nil_append]
  decide

/-! ## Items -/

/-- the names that the hook imports of cloud events -/
def cloudEventImports : List String := "self" :: extensions

def messagingItems (runtime : String) : List Item := [
  .use false (.path runtime (.path "cloudevents" (.group (cloudEventImports.map .name)))),
  .use false (.path runtime (.path "startup" (.name "Startup"))),
  .struct hookName,
  .impl ⟨false, ⟨false, ["Startup"]⟩, some ⟨false, [hookName]⟩, []⟩]

def hookStatements : List (List Token) :=
  (Token.path ["cloudevents", "register_json_format"] ++ [Token.parens [], .mark ';']) :: extensions.map registration

def messagingChunks (runtime : String) : List (List Token × Item) := [
  (.word "use" :: (Token.word runtime :: (Token.pathSeparator ++ Token.word "cloudevents" :: (Token.pathSeparator ++
      [Token.braces (Token.separated (cloudEventImports.map fun n => [.word n]))])) ++ [Token.mark ';']),
    .use false (.path runtime (.path "cloudevents" (.group (cloudEventImports.map .name))))),
  (.word "use" :: (Token.word runtime :: (Token.pathSeparator ++ Token.word "startup" :: (Token.pathSeparator ++
      [Token.word "Startup"])) ++ [Token.mark ';']), .use false (.path runtime (.path "startup" (.name "Startup")))),
  (marking "doc" (Text.literal (String.ofList " Startup hook registering the flowcanon cloud-event extensions.".toList)) ++
    [Token.word "pub", .word "struct", .word hookName, .mark ';'], .struct hookName),
  ([.word "impl", .word "Startup", .word "for", .word hookName, .braces (
      [Token.word "fn", .word "on_startup", .parens [.mark '&', .word "self"]] ++
        [Token.braces (hookStatements.flatMap id)])],
    .impl ⟨false, ⟨false, ["Startup"]⟩, some ⟨false, [hookName]⟩, []⟩)]

set_option maxRecDepth 2000 in
theorem tokens_messaging (runtime : String) :
    tokensAll (messagingPieces runtime) = heading (Text.literal (String.ofList
      " Registers the cloud-event extensions used by process messaging.".toList)) ++
        (messagingChunks runtime).flatMap Prod.fst := by
  simp only [messagingPieces, messagingChunks, List.flatMap_cons, List.flatMap_nil, tokensAll, Piece.tokens]
  rfl

theorem isItem_messaging {runtime : String} (start : startsBranch runtime = true) :
    ∀ x ∈ messagingChunks runtime, IsItem x.1 x.2 := by
  have imports : ∀ n ∈ cloudEventImports, startsBranch n = true := by decide
  have statements : ∀ ts ∈ hookStatements, IsStatement 8 ts := by
    refine List.forall_mem_cons.2 ⟨isStatement_call, fun ts hts => ?_⟩
    obtain ⟨type, isType, rfl⟩ := List.mem_map.1 hts
    exact isStatement_registration type isType
  have body : IsBody 9 (hookStatements.flatMap id) := ⟨rfl, fun n deep => readsAll_statements statements (by omega)⟩
  have members : ∀ x ∈ [([Token.word "fn", .word "on_startup", .parens [.mark '&', .word "self"]] ++
      [Token.braces (hookStatements.flatMap id)], (none : Option (Option Path)))], IsImplItem x.1 x.2 :=
    List.forall_mem_singleton.2 (isImplItem_function (isSignature_receiver.mono (by decide)) body (by decide))
  refine List.forall_mem_cons.2 ⟨?_, List.forall_mem_cons.2 ⟨?_, List.forall_mem_cons.2 ⟨?_,
    List.forall_mem_singleton.2 ?_⟩⟩⟩
  · exact (isItem_use (isBranch_path start (isBranch_path (w := "cloudevents") rfl (isBranch_names imports)))).item
  · exact (isItem_use ((isBranch_path start (isBranch_path (w := "startup") rfl
      (isBranch_name rfl))).mono (by decide))).item
  · exact (isItem_struct rfl).attributed (.doc _)
  · exact (isItem_impl rfl rfl members).item

/-- **The hook** is read as its imports, its type and the implementation of its trait. -/
theorem readFile_messagingSource {runtime : String} (name : IsName runtime.toList) (start : startsBranch runtime = true) :
    readFile (messagingSource runtime) = .ok (messagingItems runtime) := by
  obtain ⟨trees, lexed, tokens⟩ := trees_layout (fits_messaging name)
  rw [← toList_messagingSource] at lexed
  have plain : startsPlain (messagingSource runtime).toList = true := by
    rw [toList_messagingSource]
    rfl
  exact readFile_of_items plain lexed (tokens.trans (tokens_messaging runtime)) (.doc _) (isItem_messaging start)

end ProcessBuild.Generation
