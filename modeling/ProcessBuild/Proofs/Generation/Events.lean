/-
The event files as source text. The file is laid out in pieces, and whatever the id of the process is, its comments end
where their lines end and its literals where they are written; so the file is read as its imports and four items for
each event.
- `toList_eventsSource`: the pieces of the file.
- `readFile_eventsSource`: the items of the file.
-/
import ProcessBuild.Generation.Events
import ProcessBuild.Proofs.Generation.Lines
import ProcessBuild.Proofs.Source.Functions
import ProcessBuild.Proofs.Source.Layout

namespace ProcessBuild.Generation

open Source Grammar Lexer

/-! ## Layout -/

def EventType.typeName (e : EventType) (processId : String) : String := Source.processTypeName processId ++ e.ending

def EventType.comment (e : EventType) (processId : String) : List Char :=
  ' ' :: (e.phrase.toList ++ (" of `".toList ++ ((commentText processId).toList ++ "`.".toList)))

def EventType.pieces (e : EventType) (processId : String) : List Piece := [
  gap "\n", .doc false (e.comment processId), gap "\n",
  .word "pub", space, .word "struct", space, .word (e.typeName processId), space, .group .brace [gap "\n    ",
    .word "inner", .punct ':' false, space, .word e.envelope, .punct ',' false, gap "\n"], gap "\n\n",
  .word "impl", space, .word "Deref", space, .word "for", space, .word (e.typeName processId), space, .group .brace [
    gap "\n    ", .word "type", space, .word "Target", space, .punct '=' false, space, .word e.envelope,
    .punct ';' false, gap "\n\n    ",
    .word "fn", space, .word "deref", .group .parenthesis [.punct '&' false, .word "self"], space, .punct '-' true,
    .punct '>' false, space, .punct '&' false, .word "Self", .punct ':' true, .punct ':' false, .word "Target", space,
    .group .brace [gap "\n        ", .punct '&' false, .word "self", .punct '.' false, .word "inner", gap "\n    "],
    gap "\n"], gap "\n\n",
  .word "impl", space, .word "DataEvent", space, .word "for", space, .word (e.typeName processId), space,
  .group .brace [], gap "\n\n",
  .word "impl", space, .word "ProcessDataEvent", space, .word "for", space, .word (e.typeName processId), space,
  .group .brace [gap "\n    ", .word "const", space, .word "PROCESS_ID", .punct ':' false, space, .punct '&' true,
    .lifetime "static", space, .word "str", space, .punct '=' false, space, .literal (Text.literal processId),
    .punct ';' false, gap "\n"], gap "\n"]

-- the text is compared character by character
set_option maxRecDepth 4000 in
theorem toList_declaration (e : EventType) (processId : String) :
    ("\n" ++ e.declaration processId).toList = spellAll (e.pieces processId) := by
  simp [EventType.declaration, EventType.pieces, EventType.comment, EventType.typeName, lines, spellAll,
    Piece.spell, gap, space, opener, closer]

/-- the pieces in front of the declarations -/
def importPieces (runtime : String) (m : ProcessModel) : List Piece := [
  .doc true (" Data events of the `".toList ++ ((commentText m.id).toList ++ "` process.".toList)), gap "\n\n",
  .word "use", space, .word "std", .punct ':' true, .punct ':' false, .word "ops", .punct ':' true, .punct ':' false,
  .word "Deref", .punct ';' false, gap "\n",
  .word "use", space, .word runtime, .punct ':' true, .punct ':' false, .word "event", .punct ':' true,
  .punct ':' false, .group .brace ([.word "DataEvent", .punct ',' false, space, .word "ProcessDataEvent"] ++
    (eventTypes m).flatMap fun e => [.punct ',' false, space, .word e.envelope]), .punct ';' false, gap "\n"]

def eventsPieces (runtime : String) (m : ProcessModel) : List Piece :=
  importPieces runtime m ++ (eventTypes m).flatMap fun e => e.pieces m.id

/-- **An event file** is laid out in its pieces. -/
theorem toList_eventsSource (runtime : String) (m : ProcessModel) :
    (eventsSource runtime m).toList = spellAll (eventsPieces runtime m) := by
  have declarations : (String.join ((eventTypes m).map fun e => "\n" ++ e.declaration m.id)).toList =
      spellAll ((eventTypes m).flatMap fun e => e.pieces m.id) := by
    rw [String.toList_join, List.flatMap_map, spellAll_flatMap]
    simp only [toList_declaration]
  have imports : (lines [
      "//! Data events of the `" ++ commentText m.id ++ "` process.",
      "",
      "use std::ops::Deref;",
      "use " ++ runtime ++ "::event::\x7bDataEvent, ProcessDataEvent" ++
        String.join ((eventTypes m).map fun e => ", " ++ e.envelope) ++ "\x7d;"]).toList =
      spellAll (importPieces runtime m) := by
    simp [importPieces, lines, spellAll, Piece.spell, gap, space, opener, closer, spellAll_flatMap,
      List.flatMap_map]
  rw [eventsPieces, spellAll_append, ← imports, ← declarations, ← String.toList_append]
  rfl

/-! ## Fit -/

/-- an event whose names are identifiers and whose comment stays on its line -/
structure EventType.Spells (e : EventType) : Prop where
  envelope : Identifier e.envelope
  ending : ∀ c ∈ e.ending.toList, isNameChar c = true
  phrase : OneLine e.phrase.toList

theorem mem_allEvents {m : ProcessModel} {e : EventType} (h : e ∈ eventTypes m) :
    e ∈ [instanceEvent, userTaskEvent, variableEvent] := by
  unfold eventTypes at h
  rcases List.mem_append.1 h with front | back
  · rcases List.mem_cons.1 front with rfl | task
    · exact List.mem_cons_self
    · split at task
      · obtain rfl := List.mem_singleton.1 task
        exact List.mem_cons_of_mem _ List.mem_cons_self
      · cases task
  · split at back
    · obtain rfl := List.mem_singleton.1 back
      exact List.mem_cons_of_mem _ (List.mem_cons_of_mem _ List.mem_cons_self)
    · cases back

theorem spells_eventTypes {m : ProcessModel} : ∀ e ∈ eventTypes m, e.Spells := by
  have all : ∀ e ∈ [instanceEvent, userTaskEvent, variableEvent], e.Spells := by
    refine List.forall_mem_cons.2 ⟨?_, List.forall_mem_cons.2 ⟨?_, List.forall_mem_singleton.2 ?_⟩⟩
    all_goals exact ⟨identifier_of_text (by decide), forall_chars (by decide), by decide⟩
  exact fun e he => all e (mem_allEvents he)

theorem EventType.Spells.typeName {e : EventType} (h : e.Spells) (processId : String) :
    Identifier (e.typeName processId) := identifier_typeName processId e.ending h.ending

theorem fits_pieces {e : EventType} (h : e.Spells) (processId : String) (after : List Char) :
    Fits after (e.pieces processId) := by
  have comment : OneLine (e.comment processId) := by
    have blank : OneLine [' '] := by decide
    have parts : OneLine " of `".toList ∧ OneLine "`.".toList := by decide
    exact blank.append (h.phrase.append (parts.1.append ((oneLine_commentText processId).append parts.2)))
  refine fits_of_areSetOff _ rfl ?_
  have name := (h.typeName processId).name
  have envelope := h.envelope.name
  simp only [EventType.pieces, AreSound, Piece.IsSound, gap, space, comment, name, envelope, isLiteral_string, true_and,
    and_true]
  decide

theorem fits_imports {runtime : String} (name : IsName runtime.toList) (m : ProcessModel) (after : List Char) :
    Fits after (importPieces runtime m) := by
  have comment : OneLine (" Data events of the `".toList ++ ((commentText m.id).toList ++ "` process.".toList)) := by
    have parts : OneLine " Data events of the `".toList ∧ OneLine "` process.".toList := by decide
    exact parts.1.append ((oneLine_commentText m.id).append parts.2)
  unfold importPieces eventTypes
  cases m.hasHumanTasks
  all_goals cases m.hasVariables
  all_goals
    refine fits_of_areSetOff _ rfl ?_
    simp only [AreSound, Piece.IsSound, gap, space, comment, name, true_and, and_true, Bool.false_eq_true, if_false,
      if_true, List.append_nil, List.cons_append, List.nil_append, List.flatMap_cons, List.flatMap_nil]
    decide

/-- **An event file** fits together. -/
theorem fits_events {runtime : String} (name : IsName runtime.toList) (m : ProcessModel) :
    Fits [] (eventsPieces runtime m) := by
  unfold eventsPieces
  rw [fits_append]
  exact ⟨fits_imports name m _, fits_flatMap (fun e he => fits_pieces (spells_eventTypes e he) m.id) _⟩

/-! ## Items -/

def EventType.impl (e : EventType) (processId trait : String) (targets : List (Option Path)) : Item :=
  .impl ⟨false, ⟨false, [trait]⟩, some ⟨false, [e.typeName processId]⟩, targets⟩

def EventType.items (e : EventType) (processId : String) : List Item := [
  .struct (e.typeName processId),
  e.impl processId "Deref" [some ⟨false, [e.envelope]⟩],
  e.impl processId "DataEvent" [],
  e.impl processId "ProcessDataEvent" []]

/-- the tokens of the declaration of an event type by its items, and the items -/
def EventType.chunks (e : EventType) (processId : String) : List (List Token × Item) := [
  (marking "doc" (Text.literal (String.ofList (e.comment processId))) ++ [Token.word "pub", .word "struct",
    .word (e.typeName processId), .braces [.word "inner", .mark ':', .word e.envelope, .mark ',']],
      .struct (e.typeName processId)),
  ([.word "impl", .word "Deref", .word "for", .word (e.typeName processId), .braces (
    [Token.word "type", .word "Target", .mark '=', .word e.envelope, .mark ';'] ++
      ([Token.word "fn", .word "deref", .parens [.mark '&', .word "self"]] ++ arrow ++ [Token.mark '&', .word "Self"] ++
        Token.pathSeparator ++ [Token.word "Target"] ++
          [Token.braces [.mark '&', .word "self", .mark '.', .word "inner"]]))],
    e.impl processId "Deref" [some ⟨false, [e.envelope]⟩]),
  ([.word "impl", .word "DataEvent", .word "for", .word (e.typeName processId), .braces []],
    e.impl processId "DataEvent" []),
  ([.word "impl", .word "ProcessDataEvent", .word "for", .word (e.typeName processId), .braces (
    constantTokens true "PROCESS_ID" (Text.literal processId))], e.impl processId "ProcessDataEvent" [])]

theorem tokens_pieces (e : EventType) (processId : String) :
    tokensAll (e.pieces processId) = (e.chunks processId).flatMap Prod.fst := by
  simp only [EventType.chunks, List.flatMap_cons, List.flatMap_nil]
  rfl

theorem isItem_event {e : EventType} (h : e.Spells) (processId : String) :
    ∀ x ∈ e.chunks processId, IsItem x.1 x.2 := by
  have name := (h.typeName processId).free
  have target : ∀ x ∈ [([.word "type", .word "Target", .mark '=', .word e.envelope, .mark ';'],
      some (some (⟨false, [e.envelope]⟩ : Path))), ([Token.word "fn", .word "deref", .parens [.mark '&', .word "self"]] ++
        arrow ++ [Token.mark '&', .word "Self"] ++ Token.pathSeparator ++ [Token.word "Target"] ++
          [Token.braces [.mark '&', .word "self", .mark '.', .word "inner"]], none)], IsImplItem x.1 x.2 :=
    List.forall_mem_cons.2 ⟨isImplItem_type rfl h.envelope.free, List.forall_mem_singleton.2
      (isImplItem_function (isSignature_deref.mono (by decide)) isBody_field (by decide))⟩
  have nothing : ∀ x ∈ ([] : List (List Token × Option (Option Path))), IsImplItem x.1 x.2 := List.forall_mem_nil _
  have constant : ∀ x ∈ [(constantTokens true "PROCESS_ID" (Text.literal processId), (none : Option (Option Path)))],
      IsImplItem x.1 x.2 := List.forall_mem_singleton.2 (isImplItem_constant true _ .processId)
  refine List.forall_mem_cons.2 ⟨(isItem_structWith name h.envelope.free).attributed (.doc _), List.forall_mem_cons.2
    ⟨(isItem_impl rfl name target).item, List.forall_mem_cons.2 ⟨(isItem_impl rfl name nothing).item,
      List.forall_mem_singleton.2 (isItem_impl rfl name constant).item⟩⟩⟩

/-- the names that an event file imports from the runtime -/
def eventImports (m : ProcessModel) : List String :=
  "DataEvent" :: "ProcessDataEvent" :: (eventTypes m).map EventType.envelope

def eventsItems (runtime : String) (m : ProcessModel) : List Item := [
  .use false (.path "std" (.path "ops" (.name "Deref"))),
  .use false (.path runtime (.path "event" (.group ((eventImports m).map .name))))] ++
    (eventTypes m).flatMap fun e => e.items m.id

def eventsChunks (runtime : String) (m : ProcessModel) : List (List Token × Item) := [
  (.word "use" :: (Token.word "std" :: (Token.pathSeparator ++ Token.word "ops" ::
      (Token.pathSeparator ++ [Token.word "Deref"])) ++
    [Token.mark ';']), .use false (.path "std" (.path "ops" (.name "Deref")))),
  (.word "use" :: (Token.word runtime :: (Token.pathSeparator ++ Token.word "event" :: (Token.pathSeparator ++
    [Token.braces (Token.separated ((eventImports m).map fun n => [.word n]))])) ++ [Token.mark ';']),
      .use false (.path runtime (.path "event" (.group ((eventImports m).map .name)))))] ++
    (eventTypes m).flatMap fun e => e.chunks m.id

theorem tokens_events (runtime : String) (m : ProcessModel) :
    tokensAll (eventsPieces runtime m) =
      heading (Text.literal (String.ofList (" Data events of the `".toList ++
        ((commentText m.id).toList ++ "` process.".toList)))) ++ (eventsChunks runtime m).flatMap Prod.fst := by
  have envelopes : tokensAll ((eventTypes m).flatMap fun e => [.punct ',' false, space, .word e.envelope]) =
      (eventTypes m).flatMap fun e => [.mark ',', .word e.envelope] := by
    rw [tokensAll_flatMap]
    rfl
  have names : Token.separated ((eventImports m).map fun n => [.word n]) =
      .word "DataEvent" :: .mark ',' :: .word "ProcessDataEvent" ::
        (eventTypes m).flatMap fun e => [.mark ',', .word e.envelope] := by
    rw [eventImports, List.map_cons, separated_cons, List.map_cons, List.flatMap_cons, List.map_map, List.flatMap_map]
    rfl
  have declarations : tokensAll ((eventTypes m).flatMap fun e => e.pieces m.id) =
      ((eventTypes m).flatMap fun e => e.chunks m.id).flatMap Prod.fst := by
    rw [tokensAll_flatMap, List.flatMap_assoc]
    simp only [tokens_pieces]
  rw [eventsPieces, eventsChunks, tokensAll_append, declarations, List.flatMap_append, names, ← envelopes]
  rfl

theorem isItem_events {runtime : String} (start : startsBranch runtime = true) (m : ProcessModel) :
    ∀ x ∈ eventsChunks runtime m, IsItem x.1 x.2 := by
  have imports : ∀ n ∈ eventImports m, startsBranch n = true := by
    refine List.forall_mem_cons.2 ⟨rfl, List.forall_mem_cons.2 ⟨rfl, fun n hn => ?_⟩⟩
    obtain ⟨e, he, rfl⟩ := List.mem_map.1 hn
    exact startsBranch_free (spells_eventTypes e he).envelope.free
  have deref : IsBranch true 4 (.word "std" :: (Token.pathSeparator ++ Token.word "ops" ::
      (Token.pathSeparator ++ [Token.word "Deref"]))) (.path "std" (.path "ops" (.name "Deref"))) :=
    (isBranch_path rfl (isBranch_path rfl (isBranch_name rfl))).mono (by decide)
  refine List.forall_mem_append.2 ⟨List.forall_mem_cons.2 ⟨(isItem_use deref).item, List.forall_mem_singleton.2
    (isItem_use (isBranch_path start (isBranch_path rfl (isBranch_names imports)))).item⟩, fun x hx => ?_⟩
  obtain ⟨e, he, hx⟩ := List.mem_flatMap.1 hx
  exact isItem_event (spells_eventTypes e he) m.id x hx

/-- **An event file** is read as its imports and its event types, whatever the id of the process is. -/
theorem readFile_eventsSource {runtime : String} (name : IsName runtime.toList)
    (start : startsBranch runtime = true) (m : ProcessModel) :
    readFile (eventsSource runtime m) = .ok (eventsItems runtime m) := by
  obtain ⟨trees, lexed, tokens⟩ := trees_layout (fits_events name m)
  rw [← toList_eventsSource] at lexed
  have plain : startsPlain (eventsSource runtime m).toList = true := by
    rw [toList_eventsSource]
    rfl
  have read := readFile_of_items plain lexed (tokens.trans (tokens_events runtime m)) (.doc _) (isItem_events start m)
  refine read.trans (congrArg Except.ok ?_)
  unfold eventsChunks eventsItems
  rw [List.map_append, List.map_flatMap]
  rfl

end ProcessBuild.Generation
