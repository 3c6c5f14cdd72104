/-
Items in generated source, as the grammar reads them. `IsItem ts i` says that the rules of a file read the tokens `ts`
as the item `i`, whatever comes after them.
- `isItem_use`, `isItem_struct`, `isItem_module`: declarations, with the names that they bring in or declare.
- `isItem_impl`, `isItem_inherent`: implementations, from the items in them.
- `IsItem.attributed`: an item with an attribute in front of it.
- `readFile_of_items`: a file of items.
-/
import ProcessBuild.Proofs.Source.Identifiers
import ProcessBuild.Proofs.Source.Statements

namespace ProcessBuild.Source.Grammar

open ProcessBuild.Source.Parser

/-! ## Attributes -/

/-- an attribute with a literal as its value -/
def marking (name text : String) : List Token := [.mark '#', .brackets [.word name, .mark '=', .literal text]]

/-- the attributes in front of an item: none, its documentation, or the file that it is in -/
inductive IsAttributes : List Token → Prop where
  | none : IsAttributes []
  | doc (text : String) : IsAttributes (marking "doc" text)
  | path (text : String) : IsAttributes (marking "path" text)

/-- a depth that the rules of every file have -/
def leastDepth : Nat := 16

theorem leastDepth_le (trees : List Tree) : leastDepth ≤ depthFor trees := by
  unfold leastDepth depthFor
  omega

/-- what items start with: attributes and a word -/
def StartsItem (ts : List Token) : Prop :=
  ∃ attributes w more, IsAttributes attributes ∧ ts = attributes ++ Token.word w :: more

theorem StartsItem.ne_nil {ts : List Token} (h : StartsItem ts) : ts ≠ [] := by
  obtain ⟨attributes, w, more, -, rfl⟩ := h
  simp

/-- no attribute of what the trees stand in is at the front -/
def noInner : Next := fun ts => !((sym "#").startsAny ts && (sym "!").startsAny (dropTree ts))

theorem test_noInner {ts : List Tree} (h : noInner ts = true) :
    ((sym "#").startsAny ts && (sym "!").startsAny (dropTree ts)) = false := by
  rwa [noInner, Bool.not_eq_true'] at h

theorem innerAttributes_noInner {r : Rules} {ts : List Tree} {c : Option Nat} (h : noInner ts = true) :
    innerAttributes r ⟨ts, c, none⟩ = .ok ((), ⟨ts, c, none⟩) := by
  simp only [innerAttributes, discard_run, asLongAs, collect, collectFor, ↓bind_run, peek, peek2, pure_run,
    test_noInner h, Bool.false_eq_true, ↓reduceIte]

/-- items start with no attribute of what they stand in -/
theorem noInner_items {α : Type} {chunks : List (List Token × α)} (h : ∀ x ∈ chunks, StartsItem x.1) {trees : List Tree}
    (tokens : Tree.tokens trees = chunks.flatMap Prod.fst) : noInner trees = true := by
  rw [← plant_tokens trees, tokens]
  cases chunks with
  | nil => rfl
  | cons x chunks =>
    obtain ⟨attributes, w, more, isAttributes, starts⟩ := h x List.mem_cons_self
    rw [List.flatMap_cons, starts]
    cases isAttributes with
    | none => rfl
    | doc text => rfl
    | path text => rfl

/-- tokens that the rules of a file read as an item without attributes -/
def IsItemBody (ts : List Token) (i : Item) : Prop :=
  (∃ w more, ts = .word w :: more) ∧ ∀ n, leastDepth ≤ n + 1 → Reads anything (upTo n).itemBody ts i

/-- tokens that the rules of a file read as an item -/
def IsItem (ts : List Token) (i : Item) : Prop :=
  StartsItem ts ∧ ∀ n, leastDepth ≤ n → Reads anything (upTo n).item ts i

/-- **Attributes say nothing of an item.** -/
theorem IsItemBody.attributed {attributes ts : List Token} {i : Item} (h : IsItemBody ts i)
    (isAttributes : IsAttributes attributes) : IsItem (attributes ++ ts) i := by
  obtain ⟨⟨w, more, rfl⟩, h⟩ := h
  refine ⟨⟨attributes, w, more, isAttributes, rfl⟩, fun n deep trees rest c tokens after => ?_⟩
  obtain ⟨k, rfl⟩ : ∃ k, n = k + 2 := Nat.exists_eq_add_of_le' (Nat.le_trans (by decide) deep)
  obtain ⟨front, back, rfl, frontTokens, backTokens⟩ := tokens_eq_append _ _ tokens
  have read := h (k + 1) deep back rest c backTokens after
  obtain ⟨p, others, rfl⟩ : ∃ p others, back = .word p w :: others := ⟨_, _, eq_plant backTokens⟩
  rw [← plant_tokens front, frontTokens, List.append_assoc]
  rw [List.cons_append] at read ⊢
  rw [← read]
  cases isAttributes with
  | none => rfl
  | doc text => rfl
  | path text => rfl

theorem IsItemBody.item {ts : List Token} {i : Item} (h : IsItemBody ts i) : IsItem ts i := h.attributed .none

/-! ## Visibility -/

section Visibility

variable {p q : Nat} {v : String} {ts : List Tree} {c : Option Nat}

theorem visibility_pub : visibility ⟨.word p "pub" :: .word q v :: ts, c, none⟩ = .ok (true, ⟨.word q v :: ts, c, none⟩) :=
  rfl

theorem visibility_other (h : v ≠ "pub") :
    visibility ⟨.word p v :: ts, c, none⟩ = .ok (false, ⟨.word p v :: ts, c, none⟩) := by
  simp only [visibility, bind_run, keyword?_other h, Bool.false_eq_true, ↓reduceIte, pure_run]

end Visibility

/-! ## Uses of names -/

/-- tokens that the rules of a depth read as a branch of a use declaration -/
def IsBranch (root : Bool) (depth : Nat) (ts : List Token) (tree : UseTree) : Prop :=
  ts ≠ [] ∧ ∀ n, depth ≤ n → Reads endsEntry ((upTo n).useTree root) ts (some tree)

theorem IsBranch.mono {root : Bool} {depth depth' : Nat} {ts : List Token} {tree : UseTree}
    (h : IsBranch root depth ts tree) (le : depth ≤ depth') : IsBranch root depth' ts tree :=
  ⟨h.1, fun n deep => h.2 n (le.trans deep)⟩

/-- a word that a branch may start with -/
def startsBranch (w : String) : Bool :=
  isFreeWord w || (w == "self" || (w == "super" || (w == "crate" || (w == "try" || false))))

theorem startsBranch_free {w : String} (free : isFreeWord w = true) : startsBranch w = true := by
  unfold startsBranch
  rw [free, Bool.true_or]

theorem startsBranch_of_startsPath {w : String} (starts : startsPath w = true) : startsBranch w = true := by
  rcases startsPath_cases starts with free | rfl | rfl | rfl
  · exact startsBranch_free free
  · rfl
  · rfl
  · rfl

/-- the one word that a branch may start with and a path of a type may not -/
theorem eq_try_of_startsBranch {w : String} (branch : startsBranch w = true) (other : startsPath w = false) : w = "try" := by
  unfold startsBranch at branch
  unfold startsPath at other
  simp only [Bool.or_eq_false_iff, beq_eq_false_iff_ne] at other
  obtain ⟨reserved, notCrate, notSelf, notSuper⟩ := other
  simpa [reserved, notCrate, notSelf, notSuper] using branch

theorem peek_startsBranch (p : Nat) (w : String) (ts : List Tree) :
    ([.identifier, kw "self", kw "super", kw "crate", kw "try"] : List Expected).any
      (·.startsAny (.word p w :: ts)) = startsBranch w := rfl

theorem isBranch_name {root : Bool} {w : String} (h : startsBranch w = true) : IsBranch root 1 [.word w] (.name w) := by
  refine ⟨fun e => (nomatch e), fun n deep => Reads.of_plant fun places rest c after => ?_⟩
  obtain ⟨k, rfl⟩ := Nat.exists_eq_add_of_le' deep
  have none_more : symbol? "::" ⟨rest, c, none⟩ = .ok (false, ⟨rest, c, none⟩) ∧
      keyword? "as" ⟨rest, c, none⟩ = .ok (false, ⟨rest, c, none⟩) := by
    rcases endsEntry_cases after with rfl | ⟨p, joint, more, rfl⟩ | ⟨p, joint, more, rfl⟩
    · exact ⟨rfl, rfl⟩
    · exact ⟨rfl, rfl⟩
    · exact ⟨rfl, rfl⟩
  have taken : ∀ p, anyWord ⟨.word p w :: rest, c, none⟩ = .ok (w, ⟨rest, c, none⟩) := fun _ => rfl
  show useTreeRule (upTo k) root ⟨.word _ w :: rest, c, none⟩ = _
  simp only [useTreeRule, ↓bind_run, peekAny, peek_startsBranch, h, ↓reduceIte, taken, none_more, Bool.false_eq_true,
    pure_run]

theorem isBranch_path {root : Bool} {depth : Nat} {w : String} {ts : List Token} {tree : UseTree}
    (h : startsBranch w = true) (branch : IsBranch false depth ts tree) :
    IsBranch root (depth + 1) (.word w :: (Token.pathSeparator ++ ts)) (.path w tree) := by
  refine ⟨fun e => (nomatch e), fun n deep trees rest c tokens after => ?_⟩
  obtain ⟨k, rfl⟩ : ∃ k, n = k + 1 := Nat.exists_eq_add_of_le' (by omega)
  obtain ⟨front, back, rfl, frontTokens, backTokens⟩ := tokens_eq_append
    (.word w :: Token.pathSeparator) ts tokens
  obtain ⟨p, q, o, rfl⟩ : ∃ p q o, front = [.word p w, .punct q ':' true, .punct o ':' false] := ⟨_, _, _, eq_plant frontTokens⟩
  have read := branch.2 k (by omega) back rest c backTokens after
  rw [List.append_assoc, List.cons_append, List.cons_append, List.singleton_append]
  have taken : anyWord ⟨.word p w :: .punct q ':' true :: .punct o ':' false :: (back ++ rest), c, none⟩ =
      .ok (w, ⟨.punct q ':' true :: .punct o ':' false :: (back ++ rest), c, none⟩) := rfl
  have separator : symbol? "::" ⟨.punct q ':' true :: .punct o ':' false :: (back ++ rest), c, none⟩ =
      .ok (true, ⟨back ++ rest, c, none⟩) := rfl
  show useTreeRule (upTo k) root _ = _
  simp only [useTreeRule, ↓bind_run, peekAny, peek_startsBranch, h, ↓reduceIte, taken, separator, read, pure_run,
    Option.map_some]

theorem isBranch_glob {root : Bool} : IsBranch root 1 [.mark '*'] .glob := by
  refine ⟨fun e => (nomatch e), fun n deep => Reads.of_plant fun places rest c after => ?_⟩
  obtain ⟨k, rfl⟩ := Nat.exists_eq_add_of_le' deep
  rfl

/-- everything in the prelude -/
theorem isBranch_prelude : IsBranch false 2 [.word "prelude", .punct ':' true, .punct ':' true, .punct '*' true]
    (.path "prelude" .glob) := by
  refine ⟨fun e => (nomatch e), fun n deep => Reads.of_plant fun places rest c after => ?_⟩
  obtain ⟨k, rfl⟩ := Nat.exists_eq_add_of_le' deep
  rfl

theorem useBranches_run {depth k : Nat} {branches : List (List Token × UseTree)} (deep : depth ≤ k)
    (h : ∀ x ∈ branches, IsBranch false depth x.1 x.2) :
    ∀ (n : Nat) (trees : List Tree) (c : Option Nat), trees.length < n →
      Tree.tokens trees = Token.separated (branches.map Prod.fst) →
        useBranches (upTo k) false n ⟨trees, c, none⟩ = .ok (some (branches.map Prod.snd), ⟨[], c, none⟩) := by
  -- a comma is left to read exactly where another branch follows, so the last branch is a case of its own
  induction branches with
  | nil =>
    intro n trees c enough tokens
    cases n with
    | zero => exact absurd enough (Nat.not_lt_zero _)
    | succ n =>
      obtain rfl := eq_nil_of_tokens tokens
      rfl
  | cons x branches ih =>
    intro n trees c enough tokens
    obtain ⟨filled, read⟩ := h x List.mem_cons_self
    cases n with
    | zero => exact absurd enough (Nat.not_lt_zero _)
    | succ n =>
      cases branches with
      | nil =>
        obtain ⟨t, more, rfl⟩ := List.exists_cons_of_ne_nil (ne_nil_of_tokens tokens filled)
        have branch := read k deep (t :: more) [] c tokens rfl
        rw [List.append_nil] at branch
        simp only [useBranches, ↓bind_run, atEnd, List.isEmpty_cons, List.isEmpty_nil, Bool.false_eq_true, ↓reduceIte,
          pure_run, Bool.not_false, Bool.and_true, branch]
        rfl
      | cons y branches =>
        obtain ⟨first, place, others, rfl, firstTokens, otherTokens⟩ := trees_separated tokens
        obtain ⟨t, more, rfl⟩ := List.exists_cons_of_ne_nil (ne_nil_of_tokens firstTokens filled)
        have branch := read k deep (t :: more) (.punct place ',' false :: others) c firstTokens rfl
        have comma : symbol "," ⟨.punct place ',' false :: others, c, none⟩ = .ok ((), ⟨others, c, none⟩) := rfl
        simp only [List.length_append, List.length_cons] at enough
        have later := ih (fun z hz => h z (List.mem_cons_of_mem x hz)) n others c (by omega) otherTokens
        rw [List.cons_append] at branch ⊢
        simp only [useBranches, ↓bind_run, atEnd, List.isEmpty_cons, Bool.false_eq_true, ↓reduceIte, pure_run,
          Bool.not_false, Bool.and_true, branch, comma, later]
        rfl

theorem isBranch_group {depth : Nat} {branches : List (List Token × UseTree)}
    (h : ∀ x ∈ branches, IsBranch false depth x.1 x.2) :
    IsBranch false (depth + 1) [.braces (Token.separated (branches.map Prod.fst))] (.group (branches.map Prod.snd)) := by
  refine ⟨fun e => (nomatch e), fun n deep => Reads.of_plant fun places rest c after => ?_⟩
  obtain ⟨k, rfl⟩ : ∃ k, n = k + 1 := Nat.exists_eq_add_of_le' (by omega)
  obtain ⟨o, z, inner, spelled, innerTokens⟩ : ∃ o z inner,
      plant places [.braces (Token.separated (branches.map Prod.fst))] = [.group o z .brace inner] ∧
        Tree.tokens inner = Token.separated (branches.map Prod.fst) := ⟨_, _, _, rfl, tokens_plant _ _⟩
  rw [spelled, List.singleton_append]
  have read := useBranches_run (k := k) (by omega) h (inner.length + 1) inner (some z) (Nat.lt_succ_self _) innerTokens
  have noWord : peekAny [.identifier, kw "self", kw "super", kw "crate", kw "try"]
      ⟨.group o z .brace inner :: rest, c, none⟩ = .ok (false, ⟨.group o z .brace inner :: rest, c, none⟩) := rfl
  have noStar : symbol? "*" ⟨.group o z .brace inner :: rest, c, none⟩ =
      .ok (false, ⟨.group o z .brace inner :: rest, c, none⟩) := rfl
  have isGroup : curlies.startsAny (.group o z .brace inner :: rest) = true := rfl
  have inside : Parser.inside .brace (do useBranches (upTo k) false (← roundsLeft))
      ⟨.group o z .brace inner :: rest, c, none⟩ = .ok (some (branches.map Prod.snd), ⟨rest, c, none⟩) :=
    inside_run (by simp only [bind_run, roundsLeft, read])
  show useTreeRule (upTo k) false _ = _
  simp only [useTreeRule, ↓bind_run, noWord, noStar, Bool.false_eq_true, ↓reduceIte, peek, isGroup, inside, pure_run,
    Option.map_some]

theorem isBranch_names {names : List String} (h : ∀ w ∈ names, startsBranch w = true) :
    IsBranch false 2 [.braces (Token.separated (names.map fun w => [.word w]))] (.group (names.map .name)) := by
  have branches : ∀ x ∈ names.map fun w => ([Token.word w], UseTree.name w), IsBranch false 1 x.1 x.2 :=
    List.forall_mem_map.2 fun w hw => isBranch_name (h w hw)
  have group := isBranch_group branches
  rwa [List.map_map, List.map_map] at group

/-- **A use declaration** brings in what its branches lead to. -/
theorem isItem_use {w : String} {ts : List Token} {tree : UseTree}
    (branch : IsBranch true 4 (.word w :: ts) tree) :
    IsItemBody (.word "use" :: (Token.word w :: ts ++ [Token.mark ';'])) (.use false tree) := by
  refine ⟨⟨_, _, rfl⟩, fun n deep trees rest c tokens after => ?_⟩
  obtain ⟨k, rfl, enough⟩ : ∃ k, n = k + 1 ∧ 4 ≤ k := by
    unfold leastDepth at deep
    exact ⟨n - 1, by omega, by omega⟩
  obtain ⟨front, back, rfl, frontTokens, backTokens⟩ := tokens_eq_append [.word "use"] _ tokens
  obtain ⟨body, last, rfl, bodyTokens, lastTokens⟩ := tokens_eq_append (.word w :: ts) [.mark ';'] backTokens
  obtain ⟨u, rfl⟩ : ∃ u, front = [.word u "use"] := ⟨_, eq_plant frontTokens⟩
  obtain ⟨z, rfl⟩ : ∃ z, last = [.punct z ';' false] := ⟨_, eq_plant lastTokens⟩
  have read := branch.2 k enough body (.punct z ';' false :: rest) c bodyTokens rfl
  obtain ⟨p, others, rfl⟩ : ∃ p others, body = .word p w :: others := ⟨_, _, eq_plant bodyTokens⟩
  rw [List.append_assoc, List.append_assoc, List.singleton_append, List.singleton_append]
  rw [List.cons_append] at read ⊢
  generalize others ++ .punct z ';' false :: rest = more at read
  have dispatch : (upTo (k + 1)).itemBody ⟨.word u "use" :: .word p w :: more, c, none⟩ =
      useItem (upTo k) ⟨.word u "use" :: .word p w :: more, c, none⟩ := rfl
  have relative : symbol? "::" ⟨.word p w :: more, c, none⟩ = .ok (false, ⟨.word p w :: more, c, none⟩) := rfl
  have semicolon : symbol ";" ⟨.punct z ';' false :: rest, c, none⟩ = .ok ((), ⟨rest, c, none⟩) := rfl
  rw [dispatch]
  simp (disch := decide) only [useItem, ↓bind_run, discard_run, outerAttributes_word, visibility_other, keyword_word,
    relative, Bool.not_false, read, semicolon, pure_run]

/-- **A use declaration is refused** when no branch starts with its first word. -/
theorem item_use_refused {n u p : Nat} {w : String} {more : List Tree} {c : Option Nat} (h : startsBranch w = false)
    (deep : leastDepth ≤ n) : ∃ fault, (upTo n).item ⟨.word u "use" :: .word p w :: more, c, none⟩ = .error fault := by
  obtain ⟨k, rfl⟩ : ∃ k, n = k + 3 := Nat.exists_eq_add_of_le' (Nat.le_trans (by decide) deep)
  have dispatch : (upTo (k + 3)).item ⟨.word u "use" :: .word p w :: more, c, none⟩ =
      useItem (upTo (k + 1)) ⟨.word u "use" :: .word p w :: more, c, none⟩ := rfl
  have relative : symbol? "::" ⟨.word p w :: more, c, none⟩ = .ok (false, ⟨.word p w :: more, c, none⟩) := rfl
  have noStar : symbol? "*" ⟨.word p w :: more, c, none⟩ = .ok (false, ⟨.word p w :: more, c, none⟩) := rfl
  have noGroup : curlies.startsAny (.word p w :: more) = false := rfl
  have refused : (upTo (k + 1)).useTree true ⟨.word p w :: more, c, none⟩ =
      expect [.identifier, kw "self", kw "super", kw "crate", kw "try", sym "*", curlies] ⟨.word p w :: more, c, none⟩ := by
    show useTreeRule (upTo k) true _ = _
    simp only [useTreeRule, ↓bind_run, peekAny, peek_startsBranch, h, Bool.false_eq_true, ↓reduceIte, noStar, peek, noGroup]
  rw [dispatch]
  simp (disch := decide) only [useItem, ↓bind_run, discard_run, outerAttributes_word, visibility_other, keyword_word,
    relative, Bool.not_false, refused, expect]
  exact ⟨_, rfl⟩

/-! ## Declarations -/

section Structures

variable {k : Nat} {ts : List Tree} {c : Option Nat}

theorem itemBody_struct (p q : Nat) : (upTo (k + 1)).itemBody ⟨.word p "pub" :: .word q "struct" :: ts, c, none⟩ =
    structItem (upTo k) ⟨.word p "pub" :: .word q "struct" :: ts, c, none⟩ := rfl

end Structures

/-- **A structure without fields.** -/
theorem isItem_struct {name : String} (free : isFreeWord name = true) :
    IsItemBody [.word "pub", .word "struct", .word name, .mark ';'] (.struct name) := by
  refine ⟨⟨_, _, rfl⟩, fun n deep => Reads.of_plant fun places rest c after => ?_⟩
  obtain ⟨k, rfl⟩ : ∃ k, n = k + 1 := Nat.exists_eq_add_of_le' (Nat.le_trans (by decide) (Nat.le_of_succ_le_succ deep))
  show (upTo (k + 1)).itemBody ⟨.word _ "pub" :: .word _ "struct" :: .word _ name :: .punct _ ';' false ::
      rest, c, none⟩ = _
  rw [itemBody_struct]
  simp only [structItem, ↓bind_run, discard_run, visibility_pub, keyword_word, identifier_word free]
  rfl

theorem readsAll_field {n : Nat} {type : String} (free : isFreeWord type = true) :
    ∃ as, ReadsAll (commaList (namedField (upTo (n + 1)))) [.word "inner", .mark ':', .word type, .mark ','] as := by
  refine ⟨[()], ReadsAll.of_plant fun places c => ?_⟩
  obtain ⟨p, q, t, z, spelled⟩ : ∃ p q t z, plant places [.word "inner", .mark ':', .word type, .mark ','] =
      [.word p "inner", .punct q ':' false, .word t type, .punct z ',' false] := ⟨_, _, _, _, rfl⟩
  rw [spelled]
  have field : namedField (upTo (n + 1))
      ⟨[.word p "inner", .punct q ':' false, .word t type, .punct z ',' false], c, none⟩ =
        .ok ((), ⟨[.punct z ',' false], c, none⟩) := by
    have front : namedField (upTo (n + 1))
        ⟨[.word p "inner", .punct q ':' false, .word t type, .punct z ',' false], c, none⟩ =
          (discard ((upTo (n + 1)).type true) : Parser Unit) ⟨[.word t type, .punct z ',' false], c, none⟩ := rfl
    have after : endsType [.punct z ',' false] = true := rfl
    rw [front, discard_run, type_word free after]
  have comma : symbol "," ⟨[.punct z ',' false], c, none⟩ = .ok ((), ⟨[], c, none⟩) := rfl
  simp only [commaList, Parser.separated, separatedFor, List.length_cons, List.length_nil, ↓bind_run, atEnd,
    List.isEmpty_cons, Bool.false_eq_true, ↓reduceIte, field, comma, List.isEmpty_nil, pure_run]

theorem isItem_structWith {name type : String} (free : isFreeWord name = true) (freeType : isFreeWord type = true) :
    IsItemBody [.word "pub", .word "struct", .word name, .braces [.word "inner", .mark ':', .word type, .mark ',']]
      (.struct name) := by
  refine ⟨⟨_, _, rfl⟩, fun n deep => Reads.of_plant fun places rest c after => ?_⟩
  obtain ⟨k, rfl⟩ : ∃ k, n = k + 2 := Nat.exists_eq_add_of_le' (Nat.le_trans (by decide) (Nat.le_of_succ_le_succ deep))
  obtain ⟨p, q, t, o, z, inner, spelled, innerTokens⟩ : ∃ p q t o z inner, plant places [.word "pub", .word "struct",
      .word name, .braces [.word "inner", .mark ':', .word type, .mark ',']] =
        [.word p "pub", .word q "struct", .word t name, .group o z .brace inner] ∧
      Tree.tokens inner = [.word "inner", .mark ':', .word type, .mark ','] := ⟨_, _, _, _, _, _, rfl, tokens_plant _ _⟩
  obtain ⟨as, read⟩ := readsAll_field (n := k) freeType
  have fields : namedFields (upTo (k + 1)) ⟨.group o z .brace inner :: rest, c, none⟩ = .ok ((), ⟨rest, c, none⟩) :=
    inside_run (by rw [discard_run, read inner (some z) innerTokens])
  have body : structBody (upTo (k + 1)) ⟨.group o z .brace inner :: rest, c, none⟩ =
      namedFields (upTo (k + 1)) ⟨.group o z .brace inner :: rest, c, none⟩ := rfl
  have noParameters : generics (upTo (k + 1)) ⟨.group o z .brace inner :: rest, c, none⟩ =
      .ok (false, ⟨.group o z .brace inner :: rest, c, none⟩) := rfl
  rw [spelled]
  show (upTo (k + 2)).itemBody ⟨.word p "pub" :: .word q "struct" :: .word t name :: .group o z .brace inner ::
      rest, c, none⟩ = _
  rw [itemBody_struct]
  simp only [structItem, ↓bind_run, discard_run, visibility_pub, keyword_word, identifier_word free, noParameters,
    body, fields, pure_run]

/-! ## Implementations -/

/-- tokens that the rules of a file read as an item of an implementation -/
def IsImplItem (ts : List Token) (target : Option (Option Path)) : Prop :=
  StartsItem ts ∧ ∀ n, leastDepth ≤ n + 2 → Reads anything (implItem (upTo n)) ts target

theorem readsAll_implItems {n : Nat} {chunks : List (List Token × Option (Option Path))}
    (h : ∀ x ∈ chunks, IsImplItem x.1 x.2) (deep : leastDepth ≤ n + 2) :
    ReadsAll (do
      innerAttributes (upTo n)
      toEnd (implItem (upTo n))) (chunks.flatMap Prod.fst) (chunks.map Prod.snd) := by
  intro trees c tokens
  have read := readsAll_toEnd (fun x hx => ⟨(h x hx).1.ne_nil, (h x hx).2 n deep⟩) trees c tokens
  have noInner := innerAttributes_noInner (r := upTo n) (c := c) (noInner_items (fun x hx => (h x hx).1) tokens)
  simp only [bind_run, noInner, read]

section Implementations

variable {n p o z : Nat} {trait type : String} {inner rest : List Tree} {c : Option Nat} {as : List (Option (Option Path))}

theorem whereClause_body (r : Rules) : whereClause r ⟨.group o z .brace inner :: rest, c, none⟩ =
    .ok (false, ⟨.group o z .brace inner :: rest, c, none⟩) := rfl

theorem implementation_trait {q f t : Nat} (freeTrait : isFreeWord trait = true) (freeType : isFreeWord type = true)
    (read : (do
      innerAttributes (upTo (n + 1))
      toEnd (implItem (upTo (n + 1)))) ⟨inner, some z, none⟩ = .ok (as, ⟨[], some z, none⟩)) :
    implementation (upTo (n + 1))
      ⟨.word p "impl" :: .word q trait :: .word f "for" :: .word t type :: .group o z .brace inner :: rest, c, none⟩ =
        .ok (.impl ⟨false, ⟨false, [trait]⟩, some ⟨false, [type]⟩, as.filterMap id⟩, ⟨rest, c, none⟩) := by
  have noParameters : ∀ ts, parametersFollow ⟨.word q trait :: ts, c, none⟩ =
      .ok (false, ⟨.word q trait :: ts, c, none⟩) := fun _ => rfl
  have afterTrait : ∀ ts, endsType (.word f "for" :: ts) = true := fun _ => rfl
  have afterType : endsType (.group o z .brace inner :: rest) = true := rfl
  have body : Parser.inside .brace (do
      innerAttributes (upTo (n + 1))
      toEnd (implItem (upTo (n + 1)))) ⟨.group o z .brace inner :: rest, c, none⟩ = .ok (as, ⟨rest, c, none⟩) :=
    inside_run read
  simp (disch := decide) only [implementation, ↓bind_run, discard_run, outerAttributes_word, visibility_other,
    keyword?_other, keyword_word, noParameters, Bool.false_eq_true, ↓reduceIte, peek, peek2, startsAny_keyword freeTrait,
    startsAny_symbol, Bool.false_and, Bool.or_self, here, type_word freeTrait (afterTrait _), keyword?_self, map_run,
    type_word freeType afterType, Option.isNone_some, whereClause_body, body]
  rfl

theorem implementation_inherent {t : Nat} (free : isFreeWord type = true)
    (read : (do
      innerAttributes (upTo (n + 1))
      toEnd (implItem (upTo (n + 1)))) ⟨inner, some z, none⟩ = .ok (as, ⟨[], some z, none⟩)) :
    implementation (upTo (n + 1)) ⟨.word p "impl" :: .word t type :: .group o z .brace inner :: rest, c, none⟩ =
      .ok (.other, ⟨rest, c, none⟩) := by
  have noParameters : ∀ ts, parametersFollow ⟨.word t type :: ts, c, none⟩ =
      .ok (false, ⟨.word t type :: ts, c, none⟩) := fun _ => rfl
  have afterType : endsType (.group o z .brace inner :: rest) = true := rfl
  have noTrait : keyword? "for" ⟨.group o z .brace inner :: rest, c, none⟩ =
      .ok (false, ⟨.group o z .brace inner :: rest, c, none⟩) := rfl
  have body : Parser.inside .brace (do
      innerAttributes (upTo (n + 1))
      toEnd (implItem (upTo (n + 1)))) ⟨.group o z .brace inner :: rest, c, none⟩ = .ok (as, ⟨rest, c, none⟩) :=
    inside_run read
  simp (disch := decide) only [implementation, ↓bind_run, discard_run, outerAttributes_word, visibility_other,
    keyword?_other, keyword_word, noParameters, Bool.false_eq_true, ↓reduceIte, peek, peek2, startsAny_keyword free,
    startsAny_symbol, Bool.false_and, Bool.or_self, pure_run, here, type_word free afterType, noTrait,
    Option.isNone_none, Bool.and_false, whereClause_body, body]

end Implementations

/-- **An implementation of a trait** for a type, from the items in it. -/
theorem isItem_impl {trait type : String} {chunks : List (List Token × Option (Option Path))}
    (freeTrait : isFreeWord trait = true) (freeType : isFreeWord type = true) (h : ∀ x ∈ chunks, IsImplItem x.1 x.2) :
    IsItemBody [.word "impl", .word trait, .word "for", .word type, .braces (chunks.flatMap Prod.fst)]
      (.impl ⟨false, ⟨false, [trait]⟩, some ⟨false, [type]⟩, (chunks.map Prod.snd).filterMap id⟩) := by
  refine ⟨⟨_, _, rfl⟩, fun n deep => Reads.of_plant fun places rest c after => ?_⟩
  obtain ⟨k, rfl⟩ : ∃ k, n = k + 2 := Nat.exists_eq_add_of_le' (Nat.le_trans (by decide) (Nat.le_of_succ_le_succ deep))
  obtain ⟨p, q, f, t, o, z, inner, spelled, innerTokens⟩ : ∃ p q f t o z inner, plant places [.word "impl", .word trait,
      .word "for", .word type, .braces (chunks.flatMap Prod.fst)] =
        [.word p "impl", .word q trait, .word f "for", .word t type, .group o z .brace inner] ∧
      Tree.tokens inner = chunks.flatMap Prod.fst := ⟨_, _, _, _, _, _, _, rfl, tokens_plant _ _⟩
  rw [spelled]
  exact implementation_trait freeTrait freeType (readsAll_implItems h deep inner (some z) innerTokens)

/-- **An implementation without a trait.** -/
theorem isItem_inherent {type : String} {chunks : List (List Token × Option (Option Path))}
    (free : isFreeWord type = true) (h : ∀ x ∈ chunks, IsImplItem x.1 x.2) :
    IsItemBody [.word "impl", .word type, .braces (chunks.flatMap Prod.fst)] .other := by
  refine ⟨⟨_, _, rfl⟩, fun n deep => Reads.of_plant fun places rest c after => ?_⟩
  obtain ⟨k, rfl⟩ : ∃ k, n = k + 2 := Nat.exists_eq_add_of_le' (Nat.le_trans (by decide) (Nat.le_of_succ_le_succ deep))
  obtain ⟨p, t, o, z, inner, spelled, innerTokens⟩ : ∃ p t o z inner, plant places [.word "impl", .word type,
      .braces (chunks.flatMap Prod.fst)] = [.word p "impl", .word t type, .group o z .brace inner] ∧
      Tree.tokens inner = chunks.flatMap Prod.fst := ⟨_, _, _, _, _, rfl, tokens_plant _ _⟩
  rw [spelled]
  exact implementation_inherent free (readsAll_implItems h deep inner (some z) innerTokens)

/-! ### Items of implementations -/

theorem implItem_type {n p q e t z : Nat} {name type : String} {rest : List Tree} {c : Option Nat}
    (freeName : isFreeWord name = true) (free : isFreeWord type = true) :
    implItem (upTo (n + 1))
      ⟨.word p "type" :: .word q name :: .punct e '=' false :: .word t type :: .punct z ';' false :: rest, c, none⟩ =
        .ok (if name = "Target" then some (some ⟨false, [type]⟩) else none, ⟨rest, c, none⟩) := by
  have dispatch : ∀ ts, implItem (upTo (n + 1)) ⟨.word p "type" :: ts, c, none⟩ =
      (typeDefinition (upTo (n + 1)) true .afterDefinition >>= fun d => do
        unless d.name = "Target" && !d.bounded do return none
        return d.definition.map typePath?) ⟨.word p "type" :: ts, c, none⟩ := fun _ => rfl
  have noParameters : ∀ ts, generics (upTo (n + 1)) ⟨.punct e '=' false :: ts, c, none⟩ =
      .ok (false, ⟨.punct e '=' false :: ts, c, none⟩) := fun _ => rfl
  have noBounds : ∀ ts, symbol? ":" ⟨.punct e '=' false :: ts, c, none⟩ =
      .ok (false, ⟨.punct e '=' false :: ts, c, none⟩) := fun _ => rfl
  have equals : ∀ ts, symbol? "=" ⟨.punct e '=' false :: ts, c, none⟩ = .ok (true, ⟨ts, c, none⟩) := fun _ => rfl
  have afterType : endsType (.punct z ';' false :: rest) = true := rfl
  have definition : typeDefinition (upTo (n + 1)) true .afterDefinition
      ⟨.word p "type" :: .word q name :: .punct e '=' false :: .word t type :: .punct z ';' false :: rest, c, none⟩ =
        .ok (⟨name, false, some (pathShape [type])⟩, ⟨rest, c, none⟩) := by
    simp (disch := decide) only [typeDefinition, ↓bind_run, discard_run, visibility_other, ↓reduceIte, keyword?_other,
      keyword_word, identifier_word freeName, noParameters, noBounds, Bool.false_eq_true, pure_run, equals, map_run,
      type_word free afterType]
    rfl
  simp only [dispatch, bind_run, definition]
  -- the rule is the same for every associated type; only one of this name is kept
  by_cases target : name = "Target"
  · subst target
    rfl
  · simp only [target, decide_false, Bool.false_and, Bool.false_eq_true, if_false, pure_run]

theorem isImplItem_type {name type : String} (freeName : isFreeWord name = true) (free : isFreeWord type = true) :
    IsImplItem [.word "type", .word name, .mark '=', .word type, .mark ';']
      (if name = "Target" then some (some ⟨false, [type]⟩) else none) := by
  refine ⟨⟨[], _, _, .none, rfl⟩, fun n deep => Reads.of_plant fun places rest c after => ?_⟩
  obtain ⟨k, rfl⟩ : ∃ k, n = k + 1 := Nat.exists_eq_add_of_le' (Nat.le_trans (by decide) (Nat.le_of_succ_le_succ
    (Nat.le_of_succ_le_succ deep)))
  obtain ⟨p, q, e, t, z, spelled⟩ : ∃ p q e t z, plant places [.word "type", .word name, .mark '=', .word type,
      .mark ';'] = [.word p "type", .word q name, .punct e '=' false, .word t type, .punct z ';' false] :=
    ⟨_, _, _, _, _, rfl⟩
  rw [spelled]
  exact implItem_type freeName free

/-- the tokens of a constant that holds a string; `joint` when its type is written without a space in it -/
def constantTokens (joint : Bool) (name text : String) : List Token :=
  [Token.word "const", .word name, .mark ':', .punct '&' joint] ++ Token.lifetime "static" ++
    [Token.word "str", .mark '=', .literal text, .mark ';']

/-- the constants of generated implementations -/
inductive IsConstantName : String → Prop where
  | processId : IsConstantName "PROCESS_ID"
  | basePath : IsConstantName "BASE_PATH"
  | id : IsConstantName "ID"

theorem isImplItem_constant (joint : Bool) {name : String} (text : String) (isName : IsConstantName name) :
    IsImplItem (constantTokens joint name text) none := by
  refine ⟨⟨[], _, _, .none, rfl⟩, fun n deep => Reads.of_plant fun places rest c after => ?_⟩
  obtain ⟨k, rfl⟩ : ∃ k, n = k + 4 := Nat.exists_eq_add_of_le' (Nat.le_of_succ_le_succ (Nat.le_of_succ_le_succ
    (Nat.le_trans (by decide) deep)))
  cases joint with
  | true =>
    cases isName with
    | processId => rfl
    | basePath => rfl
    | id => rfl
  | false =>
    cases isName with
    | processId => rfl
    | basePath => rfl
    | id => rfl

theorem isImplItem_documented (comment text : String) :
    IsImplItem (marking "doc" comment ++ Token.word "pub" :: constantTokens false "ID" text) none := by
  refine ⟨⟨_, _, _, .doc comment, rfl⟩, fun n deep => Reads.of_plant fun places rest c after => ?_⟩
  obtain ⟨k, rfl⟩ : ∃ k, n = k + 4 := Nat.exists_eq_add_of_le' (Nat.le_of_succ_le_succ (Nat.le_of_succ_le_succ
    (Nat.le_trans (by decide) deep)))
  rfl

/-! ## Spelling -/

/-- an item with an attribute is read back from its text when its parts are -/
theorem printable_marking {name text : String} {ts : List Token} (isName : IsName name.toList) (isLiteral : IsLiteral text)
    (h : Printable ts) : Printable (marking name text ++ ts) :=
  ((printable_mark rfl).append (printable_group ((printable_word isName).append ((printable_mark rfl).append
    (printable_literal isLiteral))))).append h

/-- a constant is read back from its text -/
theorem printable_constant {name : String} (isName : isPlain [.word name] = true) (text : String) :
    Printable (constantTokens false name (Text.literal text)) :=
  (printable_of_isPlain [.word "const"] rfl).append ((printable_of_isPlain _ isName).append
    ((printable_of_isPlain ([Token.mark ':', .mark '&'] ++ Token.lifetime "static" ++
      [Token.word "str", .mark '=']) rfl).append
      ((printable_string text).append (printable_mark rfl))))

end ProcessBuild.Source.Grammar
