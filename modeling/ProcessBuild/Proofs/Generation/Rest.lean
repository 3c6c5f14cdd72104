/-
The REST resources as source text. The file is laid out in pieces; whatever the id of the process is, it is read as its
imports, the type of the resource and the implementation of its trait.
- `toList_restSource`: the pieces of the file.
- `readFile_restSource`: the items of the file.
-/
import ProcessBuild.Generation.Rest
import ProcessBuild.Proofs.Generation.Lines
import ProcessBuild.Proofs.Source.Functions
import ProcessBuild.Proofs.Source.Layout

namespace ProcessBuild.Generation

open Source Grammar Lexer

/-! ## Layout -/

def resourceName (processId : String) : String := Source.processTypeName processId ++ "Resource"

def scopeModule (processId : String) : String := "processes_" ++ Source.fileStem processId

def commentLine (before : String) (processId after : String) : List Char :=
  before.toList ++ ((commentText processId).toList ++ after.toList)

theorem oneLine_commentLine {before after : String} (processId : String)
    (h : OneLine before.toList ∧ OneLine after.toList) : OneLine (commentLine before processId after) :=
  h.1.append ((oneLine_commentText processId).append h.2)

def Route.pieces (r : Route) (processId : String) : List Piece := [
  gap "\n            ", .path ["Route", "new"], .group .parenthesis [.path ["Method", r.method], .punct ',' false, space,
    .literal (Text.literal (basePath processId ++ r.tail)), .punct ',' false, space,
    .literal ("\"" ++ r.operation ++ "\"")],
  .punct ',' false]

/-- the pieces of a resource file -/
def restPieces (runtime : String) (m : ProcessModel) : List Piece := [
  .doc true (commentLine " REST resource exposing the `" m.id "` process."), gap "\n\n",
  .word "use", space, .word runtime, .punct ':' true, .punct ':' false, .word "prelude", .punct ':' true,
  .punct ':' true, .punct '*' true, .punct ';' false, gap "\n",
  .word "use", space, .word runtime, .punct ':' true, .punct ':' false, .word "rest", .punct ':' true, .punct ':' false,
  .group .brace [.word "Method", .punct ',' false, space, .word "RestResource", .punct ',' false, space, .word "Route"],
  .punct ';' false, gap "\n\n",
  .word "use", space, .path ["crate", scopeModule m.id, Source.processTypeName m.id], .punct ';' false, gap "\n\n",
  .doc false (commentLine " REST endpoints of `" m.id "`."), gap "\n",
  .word "pub", space, .word "struct", space, .word (resourceName m.id), .punct ';' false, gap "\n\n",
  .word "impl", space, .word "RestResource", space, .word "for", space, .word (resourceName m.id), space,
  .group .brace [gap "\n    ", .word "type", space, .word "Scope", space, .punct '=' false, space,
    .word (Source.processTypeName m.id), .punct ';' false, gap "\n\n    ",
    .word "const", space, .word "BASE_PATH", .punct ':' false, space, .punct '&' true, .lifetime "static", space,
    .word "str", space, .punct '=' false, space, .literal (Text.literal (basePath m.id)), .punct ';' false,
    gap "\n\n    ",
    .word "fn", space, .word "routes", .group .parenthesis [], space, .punct '-' true, .punct '>' false, space,
    .word "Vec", .punct '<' false, .word "Route", .punct '>' false, space, .group .brace [gap "\n        ",
      .word "vec", .punct '!' false, .group .bracket ((routes m).flatMap (fun r => r.pieces m.id) ++ [gap "\n        "]),
      gap "\n    "], gap "\n"]]

theorem toList_line (r : Route) (processId : String) :
    '\n' :: (r.line processId).toList = spellAll (r.pieces processId) := by
  unfold Route.line
  simp [Route.pieces, pathChars, spellAll, Piece.spell, gap, space, opener, closer]

-- the text is compared character by character
set_option maxRecDepth 4000 in
/-- **A resource file** is laid out in its pieces. -/
theorem toList_restSource (runtime : String) (m : ProcessModel) :
    (restSource runtime m).toList = spellAll (restPieces runtime m) := by
  unfold restSource
  rw [moduleName_processPath, Option.getD_some]
  simp only [List.cons_append, List.nil_append, toList_joinLines, List.flatMap_cons, List.flatMap_nil,
    List.flatMap_append, List.flatMap_map, toList_line]
  simp [restPieces, pathChars, scopeModule, resourceName, commentLine, spellAll, spellAll_append,
    spellAll_flatMap, Piece.spell,
    gap, space, opener, closer]

/-! ## Fit -/

/-- the operations of routes are written as they are -/
theorem literal_operation : ∀ r ∈ instanceRoutes ++ taskRoutes,
    Text.literal r.operation = "\"" ++ r.operation ++ "\"" := by
  decide

theorem isName_method : ∀ r ∈ instanceRoutes ++ taskRoutes, IsName r.method.toList := by decide

theorem identifier_scopeModule (processId : String) : Identifier (scopeModule processId) :=
  identifier_processModule processId

theorem identifier_resourceName (processId : String) : Identifier (resourceName processId) :=
  identifier_typeName processId "Resource" (forall_chars (by decide))

theorem isSound_route {m : ProcessModel} : ∀ r ∈ routes m, AreSound (r.pieces m.id) := by
  intro r hr
  have known : r ∈ instanceRoutes ++ taskRoutes := by
    unfold routes at hr
    refine List.mem_append.2 ((List.mem_append.1 hr).imp_right fun tasks => ?_)
    split at tasks
    · exact tasks
    · cases tasks
  have operation : IsLiteral ("\"" ++ r.operation ++ "\"") := literal_operation r known ▸ isLiteral_string _
  have method := isName_method r known
  simp only [Route.pieces, AreSound, Piece.IsSound, gap, space, List.forall_mem_cons, List.not_mem_nil, false_imp_iff,
    implies_true, method, operation, isLiteral_string, true_and, and_true]
  decide

/-- **A resource file** fits together. -/
theorem fits_rest {runtime : String} (runtimeName : IsName runtime.toList) (m : ProcessModel) :
    Fits [] (restPieces runtime m) := by
  have setOff : areSetOff [] (restPieces runtime m) = true := by
    unfold restPieces routes
    cases m.hasHumanTasks
    · rfl
    · rfl
  have first : OneLine (commentLine " REST resource exposing the `" m.id "` process.") :=
    oneLine_commentLine m.id (by decide)
  have second : OneLine (commentLine " REST endpoints of `" m.id "`.") := oneLine_commentLine m.id (by decide)
  have moduleName := (identifier_scopeModule m.id).name
  have typeName := isName_processTypeName m.id
  have resource := (identifier_resourceName m.id).name
  have routes := areSound_flatMap (isSound_route (m := m))
  refine fits_of_areSetOff _ setOff ?_
  simp only [restPieces, AreSound, Piece.IsSound, areSound_append, gap, space, List.forall_mem_cons, List.not_mem_nil,
    false_imp_iff, implies_true, first, second, runtimeName, moduleName, typeName, resource, routes, isLiteral_string,
    true_and, and_true]
  decide

/-! ## Items -/

/-- the items of a resource file -/
def restItems (runtime : String) (m : ProcessModel) : List Item := [
  .use false (.path runtime (.path "prelude" .glob)),
  .use false (.path runtime (.path "rest" (.group [.name "Method", .name "RestResource", .name "Route"]))),
  .use false (.path "crate" (.path (scopeModule m.id) (.name (Source.processTypeName m.id)))),
  .struct (resourceName m.id),
  .impl ⟨false, ⟨false, ["RestResource"]⟩, some ⟨false, [resourceName m.id]⟩, []⟩]

def routeTokens (m : ProcessModel) : List Token := tokensAll ((routes m).flatMap fun r => r.pieces m.id)

/-- the tokens of a resource file by its items, and the items -/
def restChunks (runtime : String) (m : ProcessModel) : List (List Token × Item) := [
  (.word "use" :: (Token.word runtime :: (Token.pathSeparator ++ [Token.word "prelude", .punct ':' true, .punct ':' true,
      .punct '*' true]) ++ [Token.mark ';']), .use false (.path runtime (.path "prelude" .glob))),
  (.word "use" :: (Token.word runtime :: (Token.pathSeparator ++ Token.word "rest" :: (Token.pathSeparator ++
      [Token.braces (Token.separated [[.word "Method"], [.word "RestResource"], [.word "Route"]])])) ++ [Token.mark ';']),
    .use false (.path runtime (.path "rest" (.group [.name "Method", .name "RestResource", .name "Route"])))),
  (.word "use" :: (Token.word "crate" :: (Token.pathSeparator ++ Token.word (scopeModule m.id) :: (Token.pathSeparator ++
      [Token.word (Source.processTypeName m.id)])) ++ [Token.mark ';']),
    .use false (.path "crate" (.path (scopeModule m.id) (.name (Source.processTypeName m.id))))),
  (marking "doc" (Text.literal (String.ofList (commentLine " REST endpoints of `" m.id "`."))) ++
    [Token.word "pub", .word "struct", .word (resourceName m.id), .mark ';'], .struct (resourceName m.id)),
  ([.word "impl", .word "RestResource", .word "for", .word (resourceName m.id), .braces (
      [Token.word "type", .word "Scope", .mark '=', .word (Source.processTypeName m.id), .mark ';'] ++
        constantTokens true "BASE_PATH" (Text.literal (basePath m.id)) ++
        ([Token.word "fn", .word "routes", .parens []] ++ arrow ++
          [Token.word "Vec", .mark '<', .word "Route", .mark '>'] ++
          [Token.braces [.word "vec", .mark '!', .brackets (routeTokens m)]]))],
    .impl ⟨false, ⟨false, ["RestResource"]⟩, some ⟨false, [resourceName m.id]⟩, []⟩)]

set_option maxRecDepth 2000 in
theorem tokens_rest (runtime : String) (m : ProcessModel) :
    tokensAll (restPieces runtime m) = heading (Text.literal (String.ofList
      (commentLine " REST resource exposing the `" m.id "` process."))) ++ (restChunks runtime m).flatMap Prod.fst := by
  have inner : tokensAll ((routes m).flatMap (fun r => r.pieces m.id) ++ [gap "\n        "]) = routeTokens m := by
    rw [tokensAll_append, routeTokens]
    exact List.append_nil _
  simp only [restPieces, restChunks, List.flatMap_cons, List.flatMap_nil, tokensAll, Piece.tokens, inner]
  rfl

theorem isItem_rest {runtime : String} (start : startsBranch runtime = true) (m : ProcessModel) :
    ∀ x ∈ restChunks runtime m, IsItem x.1 x.2 := by
  have resource := (identifier_resourceName m.id).free
  have imports : ∀ w ∈ ["Method", "RestResource", "Route"], startsBranch w = true := by decide
  have scope := startsBranch_free (identifier_scopeModule m.id).free
  have typeName := (identifier_processTypeName m.id).free
  have members : ∀ x ∈ [
      ([.word "type", .word "Scope", .mark '=', .word (Source.processTypeName m.id), .mark ';'],
        (none : Option (Option Path))),
      (constantTokens true "BASE_PATH" (Text.literal (basePath m.id)), none),
      ([Token.word "fn", .word "routes", .parens []] ++ arrow ++ [Token.word "Vec", .mark '<', .word "Route", .mark '>'] ++
        [Token.braces [.word "vec", .mark '!', .brackets (routeTokens m)]], none)], IsImplItem x.1 x.2 :=
    List.forall_mem_cons.2 ⟨isImplItem_type rfl typeName, List.forall_mem_cons.2 ⟨isImplItem_constant true _ .basePath,
      List.forall_mem_singleton.2 (isImplItem_function isSignature_routes (isBody_vec _) (by decide))⟩⟩
  refine List.forall_mem_cons.2 ⟨?_, List.forall_mem_cons.2 ⟨?_, List.forall_mem_cons.2 ⟨?_, List.forall_mem_cons.2
    ⟨?_, List.forall_mem_singleton.2 ?_⟩⟩⟩⟩
  · exact (isItem_use ((isBranch_path start isBranch_prelude).mono (by decide))).item
  · exact (isItem_use (isBranch_path start (isBranch_path (w := "rest") rfl (isBranch_names imports)))).item
  · exact (isItem_use ((isBranch_path (w := "crate") rfl (isBranch_path scope (isBranch_name
      (startsBranch_free typeName)))).mono (by decide))).item
  · exact (isItem_struct resource).attributed (.doc _)
  · exact (isItem_impl rfl resource members).item

/-- **A resource file** is read as its imports, its type and the implementation of its trait, whatever the id of the
process is. -/
theorem readFile_restSource {runtime : String} (name : IsName runtime.toList) (start : startsBranch runtime = true)
    (m : ProcessModel) :
    readFile (restSource runtime m) = .ok (restItems runtime m) := by
  obtain ⟨trees, lexed, tokens⟩ := trees_layout (fits_rest name m)
  rw [← toList_restSource] at lexed
  have plain : startsPlain (restSource runtime m).toList = true := by
    rw [toList_restSource]
    rfl
  exact readFile_of_items plain lexed (tokens.trans (tokens_rest runtime m)) (.doc _) (isItem_rest start m)

end ProcessBuild.Generation
