/-
Functions, modules and constants in generated source, and files made of items.
- `isItem_function`, `isImplItem_function`, `isImplItem_documentedFunction`: functions, from a signature and a body.
- `isItem_module`, `isItem_constants`: what else a crate root declares.
- `readFile_of_items`: a file of items has the items that its parts are read as.
- `readFile_of_refused`: a file is refused when something in it is, such as a use of something that is no name.
-/
import ProcessBuild.Proofs.Source.Items

namespace ProcessBuild.Source.Grammar

open ProcessBuild.Source.Parser

/-! ## Signatures and bodies -/

/-- the body of a function comes next -/
def startsBody : Next
  | .group _ _ .brace _ :: _ => true
  | _ => false

/-- tokens that the rules of a depth read as the signature of a function -/
def IsSignature (depth : Nat) (ts : List Token) : Prop :=
  (∃ more, ts = .word "fn" :: more) ∧ ∀ n, depth ≤ n → Reads startsBody (signature (upTo n) false) ts ()

theorem IsSignature.mono {depth depth' : Nat} {ts : List Token} (h : IsSignature depth ts) (le : depth ≤ depth') :
    IsSignature depth' ts := ⟨h.1, fun n deep => h.2 n (le.trans deep)⟩

/-- no attribute is at the front -/
def noAttribute : List Token → Bool
  | .punct c _ :: _ => c != '#'
  | _ => true

/-- tokens that the rules of a depth read as the body of a function -/
def IsBody (depth : Nat) (ts : List Token) : Prop :=
  noAttribute ts = true ∧ ∀ n, depth ≤ n → ReadsAll (upTo n).statements ts ()

theorem startsAny_noAttribute {ts : List Token} {trees : List Tree} (h : noAttribute ts = true)
    (tokens : Tree.tokens trees = ts) : (sym "#").startsAny trees = false := by
  subst tokens
  cases trees with
  | nil => rfl
  | cons t more =>
    cases t with
    | word p w => rfl
    | literal p text => rfl
    | group o z d inner => rfl
    | punct p x joint =>
      have other : x ≠ '#' := bne_iff_ne.1 h
      show (dropSymbol ['#'] (.punct p x joint :: more)).isSome = false
      rw [dropSymbol, if_neg fun matched => other matched.1.symm]
      rfl

theorem attributedBlock_run {depth n o z : Nat} {ts : List Token} {inner rest : List Tree} {c : Option Nat}
    (h : IsBody depth ts) (deep : depth ≤ n) (tokens : Tree.tokens inner = ts) :
    attributedBlock (upTo n) ⟨.group o z .brace inner :: rest, c, none⟩ = .ok ((), ⟨rest, c, none⟩) := by
  have noHash := startsAny_noAttribute h.1 tokens
  have noInner : innerAttributes (upTo n) ⟨inner, some z, none⟩ = .ok ((), ⟨inner, some z, none⟩) := by
    simp only [innerAttributes, discard_run, asLongAs, collect, collectFor, ↓bind_run, peek, peek2, noHash,
      Bool.false_and, pure_run, Bool.false_eq_true, ↓reduceIte]
  exact inside_run (by simp only [bind_run, noInner, h.2 n deep inner (some z) tokens])

/-- a function up to where it ends: its first word, its signature and its body -/
theorem function_run {depth n : Nat} {ts body : List Token} (isSignature : IsSignature depth ts)
    (isBody : IsBody depth body) (deep : depth ≤ n) {trees : List Tree} (rest : List Tree) (c : Option Nat)
    (tokens : Tree.tokens trees = ts ++ [Token.braces body]) :
    ∃ p others block, trees ++ rest = .word p "fn" :: others ∧
      signature (upTo n) false ⟨.word p "fn" :: others, c, none⟩ = .ok ((), ⟨block, c, none⟩) ∧
      symbol? ";" ⟨block, c, none⟩ = .ok (false, ⟨block, c, none⟩) ∧
      attributedBlock (upTo n) ⟨block, c, none⟩ = .ok ((), ⟨rest, c, none⟩) := by
  obtain ⟨⟨more, rfl⟩, read⟩ := isSignature
  obtain ⟨front, back, rfl, frontTokens, backTokens⟩ := tokens_eq_append _ _ tokens
  obtain ⟨o, z, inner, rfl, innerTokens⟩ : ∃ o z inner, back = [.group o z .brace inner] ∧
      Tree.tokens inner = body := ⟨_, _, _, eq_plant backTokens, tokens_plant _ _⟩
  have signed := read n deep front (.group o z .brace inner :: rest) c frontTokens rfl
  obtain ⟨p, others, rfl⟩ : ∃ p others, front = .word p "fn" :: others := ⟨_, _, eq_plant frontTokens⟩
  exact ⟨p, others ++ .group o z .brace inner :: rest, .group o z .brace inner :: rest, by
    rw [List.append_assoc, List.singleton_append, List.cons_append], signed, rfl,
    attributedBlock_run isBody deep innerTokens⟩

theorem isImplItem_function {depth : Nat} {ts body : List Token} (isSignature : IsSignature depth ts)
    (isBody : IsBody depth body) (shallow : depth + 2 ≤ leastDepth) : IsImplItem (ts ++ [Token.braces body]) none := by
  obtain ⟨more, rfl⟩ := isSignature.1
  refine ⟨⟨[], _, _, .none, rfl⟩, fun n deep trees rest c tokens after => ?_⟩
  obtain ⟨p, others, block, spelled, signed, noSemicolon, read⟩ :=
    function_run (n := n) isSignature isBody (by omega) rest c tokens
  have dispatch : implItem (upTo n) ⟨.word p "fn" :: others, c, none⟩ =
      (signature (upTo n) false >>= fun _ => do
        unless ← symbol? ";" do attributedBlock (upTo n)
        return none) ⟨.word p "fn" :: others, c, none⟩ := rfl
  rw [spelled, dispatch]
  simp only [↓bind_run, signed, noSemicolon, Bool.false_eq_true, ↓reduceIte, read, pure_run]

theorem isImplItem_documentedFunction {depth : Nat} {ts body : List Token} (comment : String)
    (isSignature : IsSignature depth ts) (isBody : IsBody depth body) (shallow : depth + 2 ≤ leastDepth) :
    IsImplItem (marking "doc" comment ++ Token.word "pub" :: (ts ++ [Token.braces body])) none := by
  refine ⟨⟨_, _, _, .doc comment, rfl⟩, fun n deep trees rest c tokens after => ?_⟩
  obtain ⟨front, back, rfl, frontTokens, backTokens⟩ := tokens_eq_append (marking "doc" comment ++ [Token.word "pub"])
    (ts ++ [Token.braces body]) (by rw [tokens, List.append_assoc, List.singleton_append])
  obtain ⟨p, others, block, spelled, signed, noSemicolon, read⟩ :=
    function_run (n := n) isSignature isBody (by omega) rest c backTokens
  obtain ⟨h, o, z, inner, v, rfl, innerTokens⟩ : ∃ h o z inner v,
      front = [.punct h '#' false, .group o z .bracket inner, .word v "pub"] ∧
        Tree.tokens inner = [.word "doc", .mark '=', .literal comment] := ⟨_, _, _, _, _, eq_plant frontTokens, tokens_plant _ _⟩
  have dispatch : implItem (upTo n)
      ⟨.punct h '#' false :: .group o z .bracket (plant inner [.word "doc", .mark '=', .literal comment]) ::
        .word v "pub" :: .word p "fn" :: others, c, none⟩ =
      (signature (upTo n) false >>= fun _ => do
        unless ← symbol? ";" do attributedBlock (upTo n)
        return none) ⟨.word p "fn" :: others, c, none⟩ := rfl
  rw [← plant_tokens inner, innerTokens, List.append_assoc, spelled]
  show implItem (upTo n) _ = _
  rw [List.cons_append, List.cons_append, List.singleton_append, dispatch]
  simp only [↓bind_run, signed, noSemicolon, Bool.false_eq_true, ↓reduceIte, read, pure_run]

/-- **A function** says nothing of types. -/
theorem isItem_function {depth : Nat} {ts body : List Token} (isSignature : IsSignature depth ts)
    (isBody : IsBody depth body) (shallow : depth + 2 ≤ leastDepth) :
    IsItemBody (.word "pub" :: (ts ++ [Token.braces body])) .other := by
  refine ⟨⟨_, _, rfl⟩, fun n deep trees rest c tokens after => ?_⟩
  obtain ⟨k, rfl⟩ : ∃ k, n = k + 1 := Nat.exists_eq_add_of_le' (Nat.le_trans (by decide) (Nat.le_of_succ_le_succ deep))
  obtain ⟨front, back, rfl, frontTokens, backTokens⟩ := tokens_eq_append [.word "pub"] _ tokens
  obtain ⟨p, others, block, spelled, signed, noSemicolon, read⟩ :=
    function_run (n := k) isSignature isBody (by omega) rest c backTokens
  obtain ⟨v, rfl⟩ : ∃ v, front = [.word v "pub"] := ⟨_, eq_plant frontTokens⟩
  have dispatch : (upTo (k + 1)).itemBody ⟨.word v "pub" :: .word p "fn" :: others, c, none⟩ =
      functionItem (upTo k) ⟨.word v "pub" :: .word p "fn" :: others, c, none⟩ := rfl
  rw [List.append_assoc, List.singleton_append, spelled, dispatch]
  simp only [functionItem, ↓bind_run, discard_run, visibility_pub, signed, noSemicolon, Bool.false_eq_true, ↓reduceIte,
    read, pure_run]

/-! ## Signatures -/

theorem startsBody_cases {rest : List Tree} (h : startsBody rest = true) :
    ∃ o z inner more, rest = .group o z .brace inner :: more := by
  unfold startsBody at h
  split at h
  · exact ⟨_, _, _, _, rfl⟩
  · cases h

/-- the tokens of an arrow, which the result type of a function comes after -/
def arrow : List Token := [.punct '-' true, .mark '>']

theorem isSignature_receiver : IsSignature 4 [.word "fn", .word "on_startup", .parens [.mark '&', .word "self"]] := by
  refine ⟨⟨_, rfl⟩, fun n deep => Reads.of_plant fun places rest c after => ?_⟩
  obtain ⟨k, rfl⟩ := Nat.exists_eq_add_of_le' deep
  obtain ⟨o, z, inner, more, rfl⟩ := startsBody_cases after
  rfl

theorem isSignature_deref : IsSignature 6 ([Token.word "fn", .word "deref", .parens [.mark '&', .word "self"]] ++ arrow ++
    [Token.mark '&', .word "Self"] ++ Token.pathSeparator ++ [Token.word "Target"]) := by
  refine ⟨⟨_, rfl⟩, fun n deep => Reads.of_plant fun places rest c after => ?_⟩
  obtain ⟨k, rfl⟩ := Nat.exists_eq_add_of_le' deep
  obtain ⟨o, z, inner, more, rfl⟩ := startsBody_cases after
  rfl

theorem isSignature_build : IsSignature 6 ([Token.word "fn", .word "build", .parens []] ++ arrow ++
    [Token.word "Process"]) := by
  refine ⟨⟨_, rfl⟩, fun n deep => Reads.of_plant fun places rest c after => ?_⟩
  obtain ⟨k, rfl⟩ := Nat.exists_eq_add_of_le' deep
  obtain ⟨o, z, inner, more, rfl⟩ := startsBody_cases after
  rfl

theorem isSignature_routes : IsSignature 8 ([Token.word "fn", .word "routes", .parens []] ++ arrow ++
    [Token.word "Vec", .mark '<', .word "Route", .mark '>']) := by
  refine ⟨⟨_, rfl⟩, fun n deep => Reads.of_plant fun places rest c after => ?_⟩
  obtain ⟨k, rfl⟩ := Nat.exists_eq_add_of_le' deep
  obtain ⟨o, z, inner, more, rfl⟩ := startsBody_cases after
  rfl

section Arguments

variable {n p q a z : Nat} {first second last : String} {path : List Tree} {c : Option Nat}

/-- a path in angle brackets is read as generic arguments -/
theorem arguments_path (rest : List Tree) (starts : startsPath first = true)
    (free : ∀ w ∈ [second, last], isFreeWord w = true) (tokens : Tree.tokens path = Token.path [first, second, last]) :
    (upTo (n + 2)).arguments ⟨.punct a '<' false :: (path ++ .punct z '>' false :: rest), c, none⟩ =
      .ok ((), ⟨rest, c, none⟩) := by
  have isType : Reads endsType ((upTo (n + 1)).type true) (Token.path [first, second, last]) _ := reads_type starts free
  have read := isType path (.punct z '>' false :: rest) c tokens rfl
  obtain ⟨p, others, rfl, -, -⟩ := trees_path tokens
  rw [List.cons_append] at read ⊢
  -- what comes after the first word does not matter for what kind of argument it is
  generalize others ++ .punct z '>' false :: rest = more at read
  have noLifetime : Expected.lifetime.startsAny (.word p first :: more) = false := rfl
  have noConstant : peekAny [.literal, curlies] ⟨.word p first :: more, c, none⟩ =
      .ok (false, ⟨.word p first :: more, c, none⟩) := by
    have noBrace : curlies.startsAny (.word p first :: more) = false := rfl
    have noLiteral : Expected.literal.startsAny (.word p first :: more) = false := by
      show (first == "true" || first == "false") = false
      rw [beq_eq_false_iff_ne.2 (ne_of_startsPath starts (k := "true") rfl),
        beq_eq_false_iff_ne.2 (ne_of_startsPath starts (k := "false") rfl), Bool.or_self]
    simp only [peekAny, List.any_cons, List.any_nil, noLiteral, noBrace, Bool.or_self]
  have several : TypeShape.namesAssociated (pathShape [first, second, last]) = false := rfl
  have argument : genericArgument (upTo (n + 1)) ⟨.word p first :: more, c, none⟩ =
      .ok ((), ⟨.punct z '>' false :: rest, c, none⟩) := by
    simp only [genericArgument, ↓bind_run, peek, peek2, noLifetime, Bool.false_and, pure_run, Bool.false_eq_true,
      ↓reduceIte, noConstant, read, several]
  have noSeparator : symbol? "::" ⟨.punct a '<' false :: .word p first :: more, c, none⟩ =
      .ok (false, ⟨.punct a '<' false :: .word p first :: more, c, none⟩) := rfl
  have opening : symbol "<" ⟨.punct a '<' false :: .word p first :: more, c, none⟩ =
      .ok ((), ⟨.word p first :: more, c, none⟩) := rfl
  have closing : symbol ">" ⟨.punct z '>' false :: rest, c, none⟩ = .ok ((), ⟨rest, c, none⟩) := rfl
  have goesOn : (sym ">").startsAny (.word p first :: more) = false := rfl
  have ends : (sym ">").startsAny (.punct z '>' false :: rest) = true := rfl
  show angleArguments (upTo (n + 1)) _ = _
  simp only [angleArguments, ↓bind_run, discard_run, noSeparator, opening, Parser.separated, separatedFor, peek, goesOn,
    Bool.false_eq_true, ↓reduceIte, argument, ends, pure_run, closing]

/-- a list of what a path names is a type, in front of a body -/
theorem type_vec {o e : Nat} (inner rest : List Tree) (starts : startsPath first = true)
    (free : ∀ w ∈ [second, last], isFreeWord w = true) (tokens : Tree.tokens path = Token.path [first, second, last]) :
    ∃ t, (upTo (n + 3)).type true ⟨.word p "Vec" :: .punct a '<' false ::
      (path ++ .punct z '>' false :: .group o e .brace inner :: rest), c, none⟩ =
        .ok (t, ⟨.group o e .brace inner :: rest, c, none⟩) := by
  have arguments := arguments_path (n := n) (a := a) (z := z) (c := c) (.group o e .brace inner :: rest) starts free tokens
  have dispatch : ∀ ts, (upTo (n + 3)).type true ⟨.word p "Vec" :: .punct a '<' false :: ts, c, none⟩ =
      typeFromPath (upTo (n + 2)) true false ⟨.word p "Vec" :: .punct a '<' false :: ts, c, none⟩ := fun _ => rfl
  have noAngle : ∀ ts, symbol? "<" ⟨.word p "Vec" :: ts, c, none⟩ = .ok (false, ⟨.word p "Vec" :: ts, c, none⟩) :=
    fun _ => rfl
  have relative : ∀ ts, symbol? "::" ⟨.word p "Vec" :: ts, c, none⟩ = .ok (false, ⟨.word p "Vec" :: ts, c, none⟩) :=
    fun _ => rfl
  have segment : ∀ ts, pathSegment (upTo (n + 2)) false ⟨.word p "Vec" :: .punct a '<' false :: ts, c, none⟩ =
      ((upTo (n + 2)).arguments >>= fun _ => pure ("Vec", true)) ⟨.punct a '<' false :: ts, c, none⟩ := fun _ => rfl
  have noMore : moreSegments (upTo (n + 2)) false ⟨.group o e .brace inner :: rest, c, none⟩ =
      .ok ([], ⟨.group o e .brace inner :: rest, c, none⟩) := rfl
  have noCall : callRound (upTo (n + 2)) (written false false [("Vec", true)], false)
      ⟨.group o e .brace inner :: rest, c, none⟩ = .ok (none, ⟨.group o e .brace inner :: rest, c, none⟩) := rfl
  have unqualified : (written false false [("Vec", true)]).qualified = false := rfl
  have noMacro : (written false false [("Vec", true)]).plain = false := rfl
  have noMark : peekOnly "!" ["!="] ⟨.group o e .brace inner :: rest, c, none⟩ =
      .ok (false, ⟨.group o e .brace inner :: rest, c, none⟩) := rfl
  have noPlus : (sym "+").startsAny (.group o e .brace inner :: rest) = false := rfl
  refine ⟨⟨.path (written false false [("Vec", true)]), false⟩, ?_⟩
  rw [dispatch]
  simp only [typeFromPath, typePath, qualifiedPath, ↓bind_run, noAngle, Bool.false_eq_true, ↓reduceIte, Grammar.path,
    relative, segment, arguments, pure_run, noMore, iterate_stop noCall, unqualified, noMacro, noMark, peek,
    noPlus, Bool.or_self, Bool.and_false]

end Arguments

theorem isSignature_processes {first second last : String} (starts : startsPath first = true)
    (free : ∀ w ∈ [second, last], isFreeWord w = true) :
    IsSignature 8 ([Token.word "fn", .word "processes", .parens []] ++ arrow ++ ([Token.word "Vec", .mark '<'] ++
      (Token.path [first, second, last] ++ [Token.mark '>']))) := by
  refine ⟨⟨_, rfl⟩, fun n deep trees rest c tokens after => ?_⟩
  obtain ⟨k, rfl⟩ : ∃ k, n = k + 3 := Nat.exists_eq_add_of_le' (by omega)
  obtain ⟨o, e, inner, more, rfl⟩ := startsBody_cases after
  obtain ⟨front, back, rfl, frontTokens, backTokens⟩ := tokens_eq_append
    ([Token.word "fn", .word "processes", .parens []] ++ arrow) _ tokens
  obtain ⟨opening, argument, rfl, openingTokens, argumentTokens⟩ := tokens_eq_append [.word "Vec", .mark '<'] _ backTokens
  obtain ⟨path, closing, rfl, pathTokens, closingTokens⟩ := tokens_eq_append _ [.mark '>'] argumentTokens
  obtain ⟨f, q, s, t, m, g, rfl⟩ : ∃ f q s t m g, front = [.word f "fn", .word q "processes",
      .group s t .parenthesis [], .punct m '-' true, .punct g '>' false] := ⟨_, _, _, _, _, _, eq_plant frontTokens⟩
  obtain ⟨p, a, rfl⟩ : ∃ p a, opening = [.word p "Vec", .punct a '<' false] := ⟨_, _, eq_plant openingTokens⟩
  obtain ⟨z, rfl⟩ : ∃ z, closing = [.punct z '>' false] := ⟨_, eq_plant closingTokens⟩
  obtain ⟨shape, read⟩ := type_vec (n := k) (p := p) (a := a) (z := z) (c := c) (o := o) (e := e) inner more
    starts free pathTokens
  -- a signature without parameters: each of its rules but the result type meets one fixed tree
  have words : ∀ ts, signatureWords false ⟨.word f "fn" :: ts, c, none⟩ = .ok ((), ⟨.word f "fn" :: ts, c, none⟩) :=
    fun _ => rfl
  have noParameters : ∀ ts, generics (upTo (k + 3)) ⟨.group s t .parenthesis [] :: ts, c, none⟩ =
      .ok (false, ⟨.group s t .parenthesis [] :: ts, c, none⟩) := fun _ => rfl
  have noArguments : ∀ ts, Parser.inside .parenthesis (do functionArguments (upTo (k + 3)) (← roundsLeft) true false)
      ⟨.group s t .parenthesis [] :: ts, c, none⟩ = .ok ((), ⟨ts, c, none⟩) := fun _ => rfl
  have isArrow : ∀ ts, symbol? "->" ⟨.punct m '-' true :: .punct g '>' false :: ts, c, none⟩ =
      .ok (true, ⟨ts, c, none⟩) := fun _ => rfl
  simp only [List.append_assoc, List.cons_append, List.nil_append]
  simp only [signature, ↓bind_run, discard_run, words, keyword_word, identifier_word (v := "processes") rfl,
    noParameters, noArguments, resultType, isArrow, ↓reduceIte, read, pure_run, whereClause_body]

/-! ## Bodies -/

/-- **Statements** are read to the end. -/
theorem readsAll_statements {depth n : Nat} {statements : List (List Token)}
    (h : ∀ ts ∈ statements, IsStatement depth ts) (deep : depth < n) :
    ReadsAll (upTo n).statements (statements.flatMap id) () := by
  obtain ⟨k, rfl⟩ : ∃ k, n = k + 1 := Nat.exists_eq_add_of_le' (by omega)
  have stops : ∀ (rest : List Tree) (c : Option Nat), List.isEmpty rest = true →
      statementRound (upTo k) ⟨rest, c, none⟩ = .ok (none, ⟨rest, c, none⟩) := by
    intro rest c empty
    obtain rfl := List.isEmpty_iff.1 empty
    rfl
  have rounds : ∀ x ∈ statements.map fun ts => (ts, ()),
      x.1 ≠ [] ∧ Reads anything (statementRound (upTo k)) x.1 (some x.2) := by
    intro x hx
    obtain ⟨ts, hts, rfl⟩ := List.mem_map.1 hx
    exact ⟨(h ts hts).1, (h ts hts).2 k (by omega)⟩
  have collected := Reads.all (reads_collect List.isEmpty anything rounds (fun _ _ _ _ _ => rfl) (fun _ _ => rfl)
    stops) rfl
  intro trees c tokens
  have chunks : Tree.tokens trees = (statements.map fun ts => (ts, ())).flatMap Prod.fst := by
    rw [tokens, List.flatMap_map]
    rfl
  show statementsRule (upTo k) _ = _
  simp only [statementsRule, discard_run, collected trees c chunks]

theorem isBody_field : IsBody 8 [.mark '&', .word "self", .mark '.', .word "inner"] := by
  refine ⟨rfl, fun n deep => ReadsAll.of_plant fun places c => ?_⟩
  obtain ⟨k, rfl⟩ := Nat.exists_eq_add_of_le' deep
  rfl

theorem isBody_vec (elements : List Token) : IsBody 8 [.word "vec", .mark '!', .brackets elements] := by
  refine ⟨rfl, fun n deep => ReadsAll.of_plant fun places c => ?_⟩
  obtain ⟨k, rfl⟩ := Nat.exists_eq_add_of_le' deep
  rfl

theorem isStatement_call : IsStatement 8 (Token.path ["cloudevents", "register_json_format"] ++
    [Token.parens [], .mark ';']) := by
  refine ⟨fun e => (nomatch e), fun n deep => Reads.of_plant fun places rest c after => ?_⟩
  obtain ⟨k, rfl⟩ := Nat.exists_eq_add_of_le' deep
  rfl

/-- the tokens of a call of a function of a module with a type as its argument -/
def registration (type : String) : List Token :=
  Token.path ["cloudevents", "register"] ++
    [Token.punct ':' true, .punct ':' true, .mark '<', .word type, .mark '>', .parens [], .mark ';']

theorem isStatement_registration :
    ∀ type ∈ ["BaseExtension", "PredictionsExtension", "ProcessExtension", "RulesExtension"],
      IsStatement 8 (registration type) := by
  refine List.forall_mem_cons.2 ⟨?_, List.forall_mem_cons.2 ⟨?_, List.forall_mem_cons.2 ⟨?_,
    List.forall_mem_singleton.2 ?_⟩⟩⟩
  all_goals
    refine ⟨fun e => (nomatch e), fun n deep => Reads.of_plant fun places rest c after => ?_⟩
    obtain ⟨k, rfl⟩ := Nat.exists_eq_add_of_le' deep
    rfl

/-! ## Modules and constants -/

/-- **The declaration of a module in another file** says nothing of types. -/
theorem isItem_module {name : String} (free : isFreeWord name = true) :
    IsItemBody [.word "pub", .word "mod", .word name, .mark ';'] .other := by
  refine ⟨⟨_, _, rfl⟩, fun n deep => Reads.of_plant fun places rest c after => ?_⟩
  obtain ⟨k, rfl⟩ : ∃ k, n = k + 1 := Nat.exists_eq_add_of_le' (Nat.le_trans (by decide) (Nat.le_of_succ_le_succ deep))
  obtain ⟨p, q, m, z, spelled⟩ : ∃ p q m z, plant places [.word "pub", .word "mod", .word name, .mark ';'] =
      [.word p "pub", .word q "mod", .word m name, .punct z ';' false] := ⟨_, _, _, _, rfl⟩
  have dispatch : ∀ ts, (upTo (k + 1)).itemBody ⟨.word p "pub" :: .word q "mod" :: ts, c, none⟩ =
      moduleItem (upTo k) ⟨.word p "pub" :: .word q "mod" :: ts, c, none⟩ := fun _ => rfl
  have semicolon : symbol? ";" ⟨.punct z ';' false :: rest, c, none⟩ = .ok (true, ⟨rest, c, none⟩) := rfl
  rw [spelled]
  show (upTo (k + 1)).itemBody ⟨.word p "pub" :: .word q "mod" :: .word m name :: .punct z ';' false :: rest, c, none⟩ = _
  rw [dispatch]
  simp (disch := decide) only [moduleItem, ↓bind_run, discard_run, outerAttributes_word, visibility_pub,
    keyword?_other, keyword_word, peek, startsAny_keyword free, Bool.false_eq_true, ↓reduceIte, identifier_word free,
    semicolon, pure_run]

/-- **A list of constants** says nothing of types. -/
theorem isItem_constants {depth : Nat} {elements : List (List Token)} (h : ∀ ts ∈ elements, IsOperand depth ts)
    (positive : 0 < depth) (shallow : depth + 6 ≤ leastDepth) :
    IsItemBody ([Token.word "pub", .word "const", .word "PROCESS_IDS", .mark ':', .mark '&',
      .brackets [.mark '&', .word "str"], .mark '='] ++ ([Token.mark '&', .brackets (Token.separated elements)] ++
        [Token.mark ';'])) .other := by
  refine ⟨⟨_, _, rfl⟩, fun n deep trees rest c tokens after => ?_⟩
  obtain ⟨k, rfl⟩ : ∃ k, n = k + 5 := Nat.exists_eq_add_of_le' (by
    unfold leastDepth at deep
    omega)
  obtain ⟨front, back, rfl, frontTokens, backTokens⟩ := tokens_eq_append _ _ tokens
  obtain ⟨value, last, rfl, valueTokens, lastTokens⟩ := tokens_eq_append _ _ backTokens
  have spelled : plant front [.word "pub", .word "const", .word "PROCESS_IDS", .mark ':', .mark '&',
      .brackets [.mark '&', .word "str"], .mark '='] = front := (eq_plant frontTokens).symm
  obtain ⟨z, rfl⟩ : ∃ z, last = [.punct z ';' false] := ⟨_, eq_plant lastTokens⟩
  have read := (isOperand_list h positive).expr (n := k + 4) (by omega) (by omega) value (.punct z ';' false :: rest) c
    valueTokens rfl
  rw [List.append_assoc, List.append_assoc, List.singleton_append]
  generalize value ++ .punct z ';' false :: rest = more at read
  -- the value is the one part that is not known, so the rules are followed to it and on from it
  have dispatch : (upTo (k + 5)).itemBody ⟨front ++ more, c, none⟩ =
      (constant (upTo (k + 4)) >>= fun _ => pure Item.other) ⟨front.drop 2 ++ more, c, none⟩ := by
    rw [← spelled]
    rfl
  have valued : constant (upTo (k + 4)) ⟨front.drop 2 ++ more, c, none⟩ =
      (discard ((upTo (k + 4)).expr true) >>= fun _ => do
        discard (whereClause (upTo (k + 4)))
        symbol ";") ⟨more, c, none⟩ := by
    rw [← spelled]
    rfl
  have noWhere : whereClause (upTo (k + 4)) ⟨.punct z ';' false :: rest, c, none⟩ =
      .ok (false, ⟨.punct z ';' false :: rest, c, none⟩) := rfl
  have semicolon : symbol ";" ⟨.punct z ';' false :: rest, c, none⟩ = .ok ((), ⟨rest, c, none⟩) := rfl
  simp only [dispatch, ↓bind_run, valued, discard_run, read, noWhere, semicolon, pure_run]

/-! ## Files -/

/-- an attribute of the file that it stands in, with a literal as its value -/
def heading (text : String) : List Token := [.mark '#', .mark '!', .brackets [.word "doc", .mark '=', .literal text]]

theorem printable_heading {text : String} (isLiteral : IsLiteral text) : Printable (heading text) :=
  (printable_of_isPlain [.mark '#', .mark '!'] rfl).append (printable_group
    ((printable_of_isPlain [.word "doc", .mark '='] rfl).append (printable_literal isLiteral)))

/-- what a file starts with: nothing, or its documentation -/
inductive IsHeading : List Token → Prop where
  | none : IsHeading []
  | doc (text : String) : IsHeading (heading text)

theorem innerAttributes_heading (n : Nat) (text : String) :
    Reads noInner (innerAttributes (upTo n)) (heading text) () := by
  have one : ∀ x ∈ [(heading text, ())], x.1 ≠ [] ∧ Reads anything (do
      if ← (do return (← peek (sym "#")) && (← peek2 (sym "!"))) then return some (← innerAttribute (upTo n))
      else return none) x.1 (some x.2) := by
    intro x hx
    obtain rfl := List.mem_singleton.1 hx
    exact ⟨fun e => (nomatch e), Reads.of_plant fun places rest c after => rfl⟩
  have loop := reads_collect noInner anything one (fun _ _ _ _ _ => rfl) (fun _ _ => rfl) fun rest c ends => by
    simp only [↓bind_run, peek, peek2, pure_run, test_noInner ends, Bool.false_eq_true, ↓reduceIte]
  intro trees rest c tokens ends
  have read := loop trees rest c tokens ends
  simp only [innerAttributes, discard_run, asLongAs, read]

/-- whatever a file starts with is passed over -/
theorem innerAttributes_headed {n : Nat} {start : List Token} {front rest : List Tree} {c : Option Nat}
    (isHeading : IsHeading start) (tokens : Tree.tokens front = start) (noMore : noInner rest = true) :
    innerAttributes (upTo n) ⟨front ++ rest, c, none⟩ = .ok ((), ⟨rest, c, none⟩) := by
  cases isHeading with
  | none =>
    obtain rfl := eq_nil_of_tokens tokens
    exact innerAttributes_noInner noMore
  | doc text => exact innerAttributes_heading n text front rest c tokens noMore

/-- **A file** of items, read to its end. -/
theorem readsAll_file {n : Nat} {start : List Token} {chunks : List (List Token × Item)} (isHeading : IsHeading start)
    (h : ∀ x ∈ chunks, IsItem x.1 x.2) (deep : leastDepth ≤ n) :
    ReadsAll (fileItems (upTo n)) (start ++ chunks.flatMap Prod.fst) (chunks.map Prod.snd) := by
  intro trees c tokens
  obtain ⟨front, back, rfl, frontTokens, backTokens⟩ := tokens_eq_append start _ tokens
  have items := readsAll_toEnd (fun x hx => ⟨(h x hx).1.ne_nil, (h x hx).2 n deep⟩) back c backTokens
  have noMore := noInner_items (fun x hx => (h x hx).1) backTokens
  simp only [fileItems, bind_run, innerAttributes_headed isHeading frontTokens noMore, items]

/-- a text does not start with a mark of its encoding or of an interpreter -/
def startsPlain : List Char → Bool
  | '#' :: '!' :: _ => false
  | c :: _ => c != byteOrderMark
  | [] => true

theorem dropMark_plain {s : List Char} (plain : startsPlain s = true) : dropMark s = (s, 0) := by
  unfold startsPlain at plain
  split at plain
  · cases plain
  · exact if_neg (bne_iff_ne.1 plain)
  · rfl

theorem dropInterpreter_plain {s : List Char} (plain : startsPlain s = true) : dropInterpreter s = s := by
  unfold dropInterpreter
  split
  · cases plain
  · rfl

/-- **A file has the items of its parts**, when its text is read as their tokens. -/
theorem readFile_of_items {content : String} {trees : List Tree} {start : List Token}
    {chunks : List (List Token × Item)} (plain : startsPlain content.toList = true)
    (lexed : Lexer.trees content.toList = .ok trees) (tokens : Tree.tokens trees = start ++ chunks.flatMap Prod.fst)
    (isHeading : IsHeading start) (h : ∀ x ∈ chunks, IsItem x.1 x.2) :
    readFile content = .ok (chunks.map Prod.snd) := by
  have items := readsAll_file isHeading h (leastDepth_le trees) trees none tokens
  have whole : itemsOf trees = .ok (chunks.map Prod.snd) := by
    simp only [itemsOf, items]
  unfold readFile
  simp only [dropMark_plain plain, dropInterpreter_plain plain, lexed, whole]
  rfl

/-- tokens that no rules of a file read as an item, whatever comes after them -/
def IsRefused (ts : List Token) : Prop :=
  StartsItem ts ∧ ∀ n, leastDepth ≤ n → ∀ (trees : List Tree) (c : Option Nat), Tree.tokens trees = ts →
    ∃ fault, (upTo n).item ⟨trees, c, none⟩ = .error fault

/-- **A file is refused** when something after its first items is refused. -/
theorem readFile_of_refused {content : String} {trees : List Tree} {start refused : List Token}
    {chunks : List (List Token × Item)} (plain : startsPlain content.toList = true)
    (lexed : Lexer.trees content.toList = .ok trees)
    (tokens : Tree.tokens trees = start ++ (chunks.flatMap Prod.fst ++ refused)) (isHeading : IsHeading start)
    (h : ∀ x ∈ chunks, IsItem x.1 x.2) (isRefused : IsRefused refused) : ∃ fault, readFile content = .error fault := by
  have deep := leastDepth_le trees
  obtain ⟨front, back, rfl, frontTokens, backTokens⟩ := tokens_eq_append start _ tokens
  obtain ⟨good, bad, rfl, goodTokens, badTokens⟩ := tokens_eq_append _ refused backTokens
  have starts : ∀ x ∈ chunks ++ [(refused, Item.other)], StartsItem x.1 :=
    List.forall_mem_append.2 ⟨fun x hx => (h x hx).1, List.forall_mem_singleton.2 isRefused.1⟩
  have noMore : noInner (good ++ bad) = true := noInner_items starts (by
    rw [backTokens, List.flatMap_append, List.flatMap_singleton])
  obtain ⟨fault, failed⟩ := isRefused.2 _ deep bad none badTokens
  have filled : bad ≠ [] := ne_nil_of_tokens badTokens isRefused.1.ne_nil
  have items := toEnd_refused (fun x hx => ⟨(h x hx).1.ne_nil, (h x hx).2 _ deep⟩) goodTokens filled failed
  have whole : itemsOf (front ++ (good ++ bad)) = .error fault := by
    simp only [itemsOf, fileItems, bind_run, innerAttributes_headed isHeading frontTokens noMore, items]
  unfold readFile
  simp only [dropMark_plain plain, dropInterpreter_plain plain, lexed, whole]
  exact ⟨_, rfl⟩

/-- **A use declaration** that no branch can start is refused. -/
theorem isRefused_use {w : String} (more : List Token) (h : startsBranch w = false) :
    IsRefused (.word "use" :: .word w :: more) := by
  refine ⟨⟨[], "use", _, .none, rfl⟩, fun n deep trees c tokens => ?_⟩
  obtain ⟨u, p, rest, rfl⟩ : ∃ u p rest, trees = .word u "use" :: .word p w :: rest := ⟨_, _, _, eq_plant tokens⟩
  exact item_use_refused h deep

end ProcessBuild.Source.Grammar
