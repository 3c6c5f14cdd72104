/-
Paths, types and expressions in generated source, as the grammar reads them. Words are any identifiers; what comes after
an expression is known, since it decides whether the expression goes on.
- `reads_type`: a path of identifiers is a type, also one that starts at a place among the modules.
- `isOperand_literal`, `isOperand_negative`, `isOperand_flag`, `isOperand_path`, `isOperand_call`,
  `isOperand_methodCall`, `isOperand_list`: the expressions that generated code is made of.
-/
import ProcessBuild.Proofs.Source.Parsing

namespace ProcessBuild.Source.Grammar

open ProcessBuild.Source.Parser

theorem outerAttributes_word {r : Rules} {p : Nat} {w : String} {ts : List Tree} {c : Option Nat} :
    outerAttributes r ⟨.word p w :: ts, c, none⟩ = .ok (false, ⟨.word p w :: ts, c, none⟩) := rfl

/-! ## What comes next -/

/-- a path ends here -/
def endsPath : Next
  | [] => true
  | .word _ _ :: _ => true
  | .punct _ c _ :: _ => c == ',' || c == ';' || c == '.' || c == '>'
  | .group .. :: _ => true
  | _ => false

/-- a segment of a path ends here, and another one may follow -/
def endsSegment : Next
  | .punct _ ':' true :: .punct _ ':' false :: .word _ _ :: _ => true
  | ts => endsPath ts

theorem endsSegment_of_endsPath {ts : List Tree} (h : endsPath ts = true) : endsSegment ts = true := by
  unfold endsSegment
  split
  · rfl
  · exact h

/-- a symbol that starts with another character than those that end a path -/
theorem dropSymbol_endsPath {x : Char} {xs : List Char} {ts : List Tree} (h : endsPath ts = true)
    (other : x ≠ ',' ∧ x ≠ ';' ∧ x ≠ '.' ∧ x ≠ '>') : dropSymbol (x :: xs) ts = none := by
  obtain ⟨comma, semicolon, point, angle⟩ := other
  unfold dropSymbol
  split
  · rename_i e
    cases e
  · rename_i y ys p d joint ts e
    obtain ⟨rfl, rfl⟩ := List.cons.inj e
    refine if_neg fun matched => ?_
    simp only [endsPath, ← matched.1, Bool.or_eq_true, beq_iff_eq] at h
    rcases h with ((h | h) | h) | h
    · exact comma h
    · exact semicolon h
    · exact point h
    · exact angle h
  · rfl

theorem endsSegment_cases {ts : List Tree} (h : endsSegment ts = true) :
    endsPath ts = true ∨ ∃ p q k v more, ts = .punct p ':' true :: .punct q ':' false :: .word k v :: more := by
  unfold endsSegment at h
  split at h
  · exact Or.inr ⟨_, _, _, _, _, rfl⟩
  · exact Or.inl h

section Paths

variable {r : Rules} {inExpr : Bool} {ts : List Tree} {c : Option Nat}

theorem separator_endsPath (h : endsPath ts = true) : (sym "::").startsAny ts = false :=
  congrArg Option.isSome (dropSymbol_endsPath h (by decide))

theorem angle_endsPath (h : endsPath ts = true) : (sym "<").startsAny ts = false :=
  congrArg Option.isSome (dropSymbol_endsPath h (by decide))

theorem argumentsFollow_segment (h : endsSegment ts = true) :
    argumentsFollow inExpr ⟨ts, c, none⟩ = .ok (false, ⟨ts, c, none⟩) := by
  rcases endsSegment_cases h with ends | ⟨p, q, k, v, more, rfl⟩
  · have none_open : peekOnly "<" ["<=", "<<="] ⟨ts, c, none⟩ = .ok (false, ⟨ts, c, none⟩) := by
      unfold peekOnly
      simp only [angle_endsPath ends, Bool.false_and]
    have none_separated : peek (sym "::") ⟨ts, c, none⟩ = .ok (false, ⟨ts, c, none⟩) := by
      unfold peek
      simp only [separator_endsPath ends]
    cases inExpr with
    | true => simp only [argumentsFollow, bind_run, none_open, none_separated, peek3, pure_run, Bool.not_true,
        Bool.false_and, Bool.false_eq_true, if_false]
    | false => simp only [argumentsFollow, bind_run, none_open, none_separated, peek3, pure_run, Bool.not_false,
        Bool.true_and, Bool.false_and, Bool.false_eq_true, if_false]
  · cases inExpr with
    | true => rfl
    | false => rfl

/-- a word that a path may start with: an identifier, or a place among the modules -/
def startsPath (w : String) : Bool := isFreeWord w || (w == "crate" || (w == "self" || w == "super"))

theorem startsPath_free {w : String} (free : isFreeWord w = true) : startsPath w = true := by
  unfold startsPath
  rw [free, Bool.true_or]

theorem startsPath_cases {w : String} (h : startsPath w = true) :
    isFreeWord w = true ∨ w = "crate" ∨ w = "self" ∨ w = "super" := by
  simpa only [startsPath, Bool.or_eq_true, beq_iff_eq] using h

/-- a word that a path may start with is none that it may not start with -/
theorem ne_of_startsPath {v k : String} (h : startsPath v = true) (hk : startsPath k = false) : v ≠ k := by
  rintro rfl
  rw [h] at hk
  cases hk

theorem pathSegment_word {p : Nat} {v : String} (free : isFreeWord v = true) (h : endsSegment ts = true) :
    pathSegment r inExpr ⟨.word p v :: ts, c, none⟩ = .ok ((v, false), ⟨ts, c, none⟩) := by
  have noPlace : peekAny [kw "super", kw "self", kw "crate", kw "try"] ⟨.word p v :: ts, c, none⟩ =
      .ok (false, ⟨.word p v :: ts, c, none⟩) := by
    unfold peekAny
    simp (disch := decide) only [List.any_cons, List.any_nil, startsAny_keyword free, Bool.or_self]
  have noSelf : peek (kw "Self") ⟨.word p v :: ts, c, none⟩ = .ok (false, ⟨.word p v :: ts, c, none⟩) := by
    unfold peek
    rw [startsAny_keyword free rfl]
  simp only [pathSegment, ↓bind_run, noPlace, noSelf, Bool.false_eq_true, if_false, identifier_word free,
    argumentsFollow_segment h, pure_run]

theorem pathSegment_start {p : Nat} {v : String} (starts : startsPath v = true) (h : endsSegment ts = true) :
    pathSegment r inExpr ⟨.word p v :: ts, c, none⟩ = .ok ((v, false), ⟨ts, c, none⟩) := by
  rcases startsPath_cases starts with free | rfl | rfl | rfl
  · exact pathSegment_word free h
  · rfl
  · rfl
  · rfl

end Paths

def furtherTokens (names : List String) : List Token := names.flatMap fun w => Token.pathSeparator ++ [.word w]

theorem tokens_path (first : String) (names : List String) :
    Token.path (first :: names) = .word first :: furtherTokens names := by
  induction names generalizing first with
  | nil => rfl
  | cons w rest ih =>
    rw [Token.path, ih, furtherTokens, furtherTokens, List.flatMap_cons]
    · rfl
    · exact fun e => nomatch e

/-- another segment of a path follows, whatever comes after it -/
theorem endsSegment_further {w : String} {trees : List Tree} (rest : List Tree)
    (tokens : Tree.tokens trees = Token.pathSeparator ++ [.word w]) : endsSegment (trees ++ rest) = true := by
  rw [eq_plant tokens]
  rfl

theorem reads_moreSegments (r : Rules) (inExpr : Bool) {names : List String} (free : ∀ w ∈ names, isFreeWord w = true) :
    Reads endsPath (moreSegments r inExpr) (furtherTokens names) (names.map fun w => (w, false)) := by
  let chunks : List (List Token × (String × Bool)) := names.map fun w => (Token.pathSeparator ++ [.word w], (w, false))
  have tokens : furtherTokens names = chunks.flatMap Prod.fst := by
    rw [List.flatMap_map]
    rfl
  have segments : (names.map fun w => (w, false)) = chunks.map Prod.snd := by
    rw [List.map_map]
    rfl
  rw [tokens, segments]
  -- each round takes a separator and a name, up to where no separator follows
  refine reads_collect endsPath endsSegment ?_ ?_ (fun rest h => endsSegment_of_endsPath h) ?_
  · intro x hx
    obtain ⟨w, hw, rfl⟩ := List.mem_map.1 hx
    refine ⟨fun e => (nomatch e), Reads.of_plant fun places rest c after => ?_⟩
    obtain ⟨p, q, k, spelled⟩ : ∃ p q k, plant places (Token.pathSeparator ++ [.word w]) =
        [.punct p ':' true, .punct q ':' false, .word k w] := ⟨_, _, _, rfl⟩
    have test : (sym "::").startsAny (.punct p ':' true :: .punct q ':' false :: .word k w :: rest) = true := rfl
    have noCall : parentheses.startsAny (dropTree (dropTree
        (.punct p ':' true :: .punct q ':' false :: .word k w :: rest))) = false := rfl
    have separator : symbol "::" ⟨.punct p ':' true :: .punct q ':' false :: .word k w :: rest, c, none⟩ =
        .ok ((), ⟨.word k w :: rest, c, none⟩) := rfl
    rw [spelled]
    simp only [List.cons_append, List.nil_append, bind_run, peek, peek3, test, noCall, Bool.not_false, Bool.and_self,
      pure_run, if_true, separator, pathSegment_word (free w hw) after]
  · intro x hx trees rest tokens
    obtain ⟨w, hw, rfl⟩ := List.mem_map.1 hx
    exact endsSegment_further rest tokens
  · intro rest c h
    simp only [bind_run, peek, peek3, separator_endsPath h, Bool.false_and, pure_run, Bool.false_eq_true, if_false]

/-- a path of names without arguments -/
def plainWritten (names : List String) : WrittenPath := written false false (names.map fun w => (w, false))

theorem trees_path {first : String} {names : List String} {trees : List Tree}
    (tokens : Tree.tokens trees = Token.path (first :: names)) :
    ∃ p further, trees = .word p first :: further ∧ Tree.tokens further = furtherTokens names ∧
      ∀ rest, endsPath rest = true → endsSegment (further ++ rest) = true := by
  rw [tokens_path] at tokens
  obtain ⟨head, further, rfl, headTokens, others⟩ := tokens_eq_append [.word first] _ tokens
  obtain ⟨p, rfl⟩ : ∃ p, head = [.word p first] := ⟨_, eq_plant headTokens⟩
  refine ⟨p, further, rfl, others, fun rest after => ?_⟩
  cases names with
  | nil =>
    obtain rfl := eq_nil_of_tokens others
    exact endsSegment_of_endsPath after
  | cons w names =>
    obtain ⟨second, third, rfl, secondTokens, -⟩ := tokens_eq_append
      (Token.pathSeparator ++ [.word w]) _ (others.trans List.flatMap_cons)
    rw [List.append_assoc]
    exact endsSegment_further _ secondTokens

/-- **A path of identifiers** is read as it is. -/
theorem reads_pathRule (r : Rules) (inExpr : Bool) {first : String} {names : List String} (starts : startsPath first = true)
    (free : ∀ w ∈ names, isFreeWord w = true) :
    Reads endsPath (path r inExpr) (Token.path (first :: names)) (plainWritten (first :: names)) := by
  intro trees rest c tokens after
  obtain ⟨p, further, rfl, furtherTokens, goesOn⟩ := trees_path tokens
  have more := reads_moreSegments r inExpr free further rest c furtherTokens after
  have relative : symbol? "::" ⟨.word p first :: (further ++ rest), c, none⟩ =
      .ok (false, ⟨.word p first :: (further ++ rest), c, none⟩) := rfl
  rw [List.cons_append]
  simp only [path, ↓bind_run, relative, pathSegment_start starts (goesOn rest after), more,
    pure_run]
  rfl

theorem plain_plainWritten (names : List String) : (plainWritten names).plain = true := by
  unfold plainWritten written
  simp

theorem openEnded_plainWritten (names : List String) : (plainWritten names).openEnded = true := by
  unfold plainWritten written
  rw [List.getLast?_map]
  cases names.getLast? with
  | none => rfl
  | some w => rfl

/-! ## Types -/

/-- a type ends here -/
def endsType : Next
  | [] => true
  | .word _ _ :: _ => true
  | .punct _ c _ :: _ => c == ',' || c == ';' || c == '>'
  | .group _ _ d _ :: _ => d == .brace
  | _ => false

theorem endsPath_of_endsType {ts : List Tree} (h : endsType ts = true) : endsPath ts = true := by
  unfold endsType at h
  split at h
  · rfl
  · rfl
  · simp only [Bool.or_eq_true] at h
    simp only [endsPath, Bool.or_eq_true]
    exact h.imp_left Or.inl
  · rfl
  · cases h

theorem parentheses_endsType {ts : List Tree} (h : endsType ts = true) : parentheses.startsAny ts = false := by
  unfold endsType at h
  split at h
  · rfl
  · rfl
  · rfl
  · obtain rfl := beq_iff_eq.1 h
    rfl
  · cases h

/-- a path is among the ways in which a type starts -/
theorem startsAny_pathStart {p : Nat} {v : String} {ts : List Tree} (starts : startsPath v = true) :
    ([.identifier, sym "::", sym "<"] ++ pathWords).any (·.startsAny (.word p v :: ts)) = true := by
  rcases startsPath_cases starts with free | rfl | rfl | rfl
  · rw [List.cons_append, List.any_cons, startsAny_identifier free, Bool.true_or]
  · rfl
  · rfl
  · rfl

def pathShape (names : List String) : TypeShape := ⟨.path (plainWritten names), false⟩

/-- **A path of identifiers is a type.** -/
theorem reads_type {n : Nat} {plus : Bool} {first : String} {names : List String} (starts : startsPath first = true)
    (free : ∀ w ∈ names, isFreeWord w = true) :
    Reads endsType ((upTo (n + 1)).type plus) (Token.path (first :: names)) (pathShape (first :: names)) := by
  intro trees rest c tokens after
  have ends := endsPath_of_endsType after
  have read := reads_pathRule (upTo n) false starts free trees rest c tokens ends
  -- the first word starts a path, so no other form of type is tried
  obtain ⟨p, others, rfl, -, -⟩ := trees_path tokens
  rw [List.cons_append] at read ⊢
  have noBinder : binder (upTo n) ⟨.word p first :: (others ++ rest), c, none⟩ =
      .ok (false, ⟨.word p first :: (others ++ rest), c, none⟩) := by
    simp only [binder, bind_run, keyword?_other (ne_of_startsPath (k := "for") starts rfl), Bool.false_eq_true, if_false,
      pure_run]
  have noFunction : peekAny [kw "fn", kw "unsafe", kw "extern"] ⟨.word p first :: (others ++ rest), c, none⟩ =
      .ok (false, ⟨.word p first :: (others ++ rest), c, none⟩) := by
    have other : ∀ k, startsPath k = false → (kw k).startsAny (.word p first :: (others ++ rest)) = false :=
      fun k hk => beq_eq_false_iff_ne.2 (ne_of_startsPath starts hk)
    unfold peekAny
    rw [List.any_cons, List.any_cons, List.any_cons, other "fn" rfl, other "unsafe" rfl, other "extern" rfl]
    rfl
  have isPath : peekAny ([.identifier, sym "::", sym "<"] ++ pathWords) ⟨.word p first :: (others ++ rest), c, none⟩ =
      .ok (true, ⟨.word p first :: (others ++ rest), c, none⟩) := by
    unfold peekAny
    rw [startsAny_pathStart starts]
  have unbound : peekAny boundTypeStarts ⟨.word p first :: (others ++ rest), c, none⟩ =
      .ok (boundTypeStarts.any (·.startsAny (.word p first :: (others ++ rest))),
        ⟨.word p first :: (others ++ rest), c, none⟩) := rfl
  have noAngle : symbol? "<" ⟨.word p first :: (others ++ rest), c, none⟩ =
      .ok (false, ⟨.word p first :: (others ++ rest), c, none⟩) := rfl
  -- behind the path nothing that would go on with the type: arguments of a call, a macro, further bounds
  have noCall : callRound (upTo n) (plainWritten (first :: names), false) ⟨rest, c, none⟩ =
      .ok (none, ⟨rest, c, none⟩) := by
    simp only [callRound, bind_run, openEnded_plainWritten, if_true, pure_run, peek, peek3, parentheses_endsType after,
      separator_endsPath ends, Bool.false_and, Bool.or_self, Bool.false_eq_true, if_false]
  have noParens : parentheses.startsAny (.word p first :: (others ++ rest)) = false := rfl
  have noMark : (sym "!").startsAny rest = false := congrArg Option.isSome (dropSymbol_endsPath ends (by decide))
  have noPlus : (sym "+").startsAny rest = false := congrArg Option.isSome (dropSymbol_endsPath ends (by decide))
  have relative : (plainWritten (first :: names)).qualified = false := rfl
  show typeRule (upTo n) plus _ = _
  simp only [typeRule, ↓bind_run, noBinder, unbound, peek, noParens, noFunction, isPath, Bool.false_and, Bool.false_eq_true,
    ↓reduceIte, typeFromPath, typePath, qualifiedPath, noAngle, read, iterate_stop noCall, relative,
    plain_plainWritten, peekOnly, noMark, noPlus, Bool.and_false]
  rfl

theorem type_word {n p : Nat} {plus : Bool} {v : String} {ts : List Tree} {c : Option Nat} (free : isFreeWord v = true)
    (after : endsType ts = true) :
    (upTo (n + 1)).type plus ⟨.word p v :: ts, c, none⟩ = .ok (pathShape [v], ⟨ts, c, none⟩) := by
  exact reads_type (startsPath_free free) (List.forall_mem_nil _) [.word p v] ts c rfl after

/-! ## Expressions -/

section Operands

variable {n : Nat} {rest : List Tree} {c : Option Nat}

theorem endsEntry_cases (h : endsEntry rest = true) :
    rest = [] ∨ (∃ p joint more, rest = .punct p ',' joint :: more) ∨
      ∃ p joint more, rest = .punct p ';' joint :: more := by
  unfold endsEntry at h
  split at h
  · exact Or.inl rfl
  · rename_i p x joint more
    rcases Bool.or_eq_true_iff.1 h with comma | semicolon
    · exact Or.inr (Or.inl ⟨p, joint, more, by rw [beq_iff_eq.1 comma]⟩)
    · exact Or.inr (Or.inr ⟨p, joint, more, by rw [beq_iff_eq.1 semicolon]⟩)
  · cases h

theorem operators_end (h : endsEntry rest = true) :
    (upTo (n + 1)).operators true .jump .plain ⟨rest, c, none⟩ = .ok (.plain, ⟨rest, c, none⟩) := by
  rcases endsEntry_cases h with rfl | ⟨p, joint, more, rfl⟩ | ⟨p, joint, more, rfl⟩
  · rfl
  · rfl
  · rfl

theorem trailer_end {r : Rules} (h : endsEntry rest = true) :
    trailer r .plain ⟨rest, c, none⟩ = .ok (none, ⟨rest, c, none⟩) := by
  rcases endsEntry_cases h with rfl | ⟨p, joint, more, rfl⟩ | ⟨p, joint, more, rfl⟩
  · rfl
  · rfl
  · rfl

end Operands

/-- tokens that the rules of a depth read as an operand of no special form, up to where it ends -/
def IsOperand (depth : Nat) (ts : List Token) : Prop :=
  ts ≠ [] ∧ ∀ n, depth ≤ n → Reads endsEntry ((upTo n).operand true) ts .plain

theorem IsOperand.of_plant {depth : Nat} {ts : List Token} (filled : ts ≠ [])
    (h : ∀ n places rest c, endsEntry rest = true →
      (upTo (n + depth)).operand true ⟨plant places ts ++ rest, c, none⟩ = .ok (.plain, ⟨rest, c, none⟩)) :
    IsOperand depth ts := by
  refine ⟨filled, fun n deep => Reads.of_plant fun places rest c after => ?_⟩
  obtain ⟨k, rfl⟩ := Nat.exists_eq_add_of_le' deep
  exact h k places rest c after

theorem IsOperand.mono {depth depth' : Nat} {ts : List Token} (h : IsOperand depth ts) (le : depth ≤ depth') :
    IsOperand depth' ts := ⟨h.1, fun n deep => h.2 n (le.trans deep)⟩

theorem IsOperand.expr {depth n : Nat} {ts : List Token} (h : IsOperand depth ts) (positive : 0 < depth)
    (deep : depth < n) : Reads endsEntry ((upTo n).expr true) ts .plain := by
  obtain ⟨k, rfl⟩ := Nat.exists_eq_add_of_le' (Nat.lt_of_le_of_lt positive deep)
  intro trees rest c tokens after
  have read := h.2 (k + 1) (Nat.le_of_lt_succ deep) trees rest c tokens after
  show exprRule (upTo (k + 1)) true _ = _
  simp only [exprRule, bind_run, read, operators_end after]

theorem isOperand_literal (text : String) : IsOperand 1 [.literal text] := by
  refine IsOperand.of_plant (fun e => nomatch e) fun n places rest c after => ?_
  rcases endsEntry_cases after with rfl | ⟨p, joint, more, rfl⟩ | ⟨p, joint, more, rfl⟩
  · rfl
  · rfl
  · rfl

theorem isOperand_negative (text : String) : IsOperand 2 [.mark '-', .literal text] := by
  refine IsOperand.of_plant (fun e => nomatch e) fun n places rest c after => ?_
  rcases endsEntry_cases after with rfl | ⟨p, joint, more, rfl⟩ | ⟨p, joint, more, rfl⟩
  · rfl
  · rfl
  · rfl

theorem isOperand_flag (b : Bool) : IsOperand 1 [.word (if b then "true" else "false")] := by
  refine IsOperand.of_plant (fun e => nomatch e) fun n places rest c after => ?_
  cases b with
  | true =>
    rcases endsEntry_cases after with rfl | ⟨p, joint, more, rfl⟩ | ⟨p, joint, more, rfl⟩
    · rfl
    · rfl
    · rfl
  | false =>
    rcases endsEntry_cases after with rfl | ⟨p, joint, more, rfl⟩ | ⟨p, joint, more, rfl⟩
    · rfl
    · rfl
    · rfl

/-! ### Paths and calls -/

/-- a path in an expression ends here: what it names is called or has a member called, or the operand ends -/
def endsCallee : Next
  | [] => true
  | .punct _ c _ :: _ => c == ',' || c == ';' || c == '.'
  | .group _ _ d _ :: _ => d == .parenthesis
  | _ => false

theorem endsPath_of_endsCallee {ts : List Tree} (h : endsCallee ts = true) : endsPath ts = true := by
  unfold endsCallee at h
  split at h
  · rfl
  · simp only [endsPath, Bool.or_eq_true] at h ⊢
    exact Or.inl h
  · rfl
  · cases h

theorem curlies_endsCallee {ts : List Tree} (h : endsCallee ts = true) : curlies.startsAny ts = false := by
  unfold endsCallee at h
  split at h
  · rfl
  · rfl
  · obtain rfl := beq_iff_eq.1 h
    rfl
  · cases h

/-- the symbol is not what comes after the first segment of a path -/
theorem symbol_endsSegment {k : String} {x : Char} {xs : List Char} {ts : List Tree} (h : endsSegment ts = true)
    (front : k.toList = x :: xs) (other : x ≠ ',' ∧ x ≠ ';' ∧ x ≠ '.' ∧ x ≠ '>' ∧ x ≠ ':') :
    (sym k).startsAny ts = false := by
  obtain ⟨comma, semicolon, point, angle, colon⟩ := other
  show (dropSymbol k.toList ts).isSome = false
  rw [front]
  rcases endsSegment_cases h with ends | ⟨p, q, j, v, more, rfl⟩
  · rw [dropSymbol_endsPath ends ⟨comma, semicolon, point, angle⟩]
    rfl
  · unfold dropSymbol
    rw [if_neg fun matched => colon matched.1]
    rfl

/-- a path of identifiers is an operand, up to what it is called with -/
theorem reads_atom {n : Nat} {first : String} {names : List String} (free : ∀ w ∈ first :: names, isFreeWord w = true) :
    Reads endsCallee (atom (upTo n) true) (Token.path (first :: names)) .plain := by
  intro trees rest c tokens after
  have ends := endsPath_of_endsCallee after
  have isFree := free first List.mem_cons_self
  have later : ∀ w ∈ names, isFreeWord w = true := fun w hw => free w (List.mem_cons_of_mem first hw)
  have read := reads_pathRule (upTo n) true (startsPath_free isFree) later trees rest c tokens ends
  obtain ⟨p, others, rfl, -, goesOn⟩ := trees_path tokens
  have segment := goesOn rest ends
  rw [List.cons_append] at read ⊢
  have noLiteral : Expected.literal.startsAny (.word p first :: (others ++ rest)) = false := by
    show (first == "true" || first == "false") = false
    rw [beq_eq_false_iff_ne.2 (ne_of_isFreeWord isFree (k := "true") rfl),
      beq_eq_false_iff_ne.2 (ne_of_isFreeWord isFree (k := "false") rfl), Bool.or_self]
  have noAngle : symbol? "<" ⟨.word p first :: (others ++ rest), c, none⟩ =
      .ok (false, ⟨.word p first :: (others ++ rest), c, none⟩) := rfl
  have noHash : (sym "#").startsAny (dropTree (.word p first :: (others ++ rest))) = false :=
    symbol_endsSegment segment rfl (by decide)
  have noMark : (sym "!").startsAny rest = false := congrArg Option.isSome (dropSymbol_endsPath ends (by decide))
  simp (disch := decide) only [atom, ↓bind_run, peek, peek2, peek3, peekAny, noLiteral, startsAny_keyword isFree,
    closureFollows, List.any_cons, List.any_nil, List.cons_append, startsAny_symbol, startsAny_identifier isFree,
    Bool.or_self, Bool.true_or, noHash, Bool.false_and, Bool.and_false, Bool.false_eq_true, ↓reduceIte, pure_run,
    pathFollows, exprFromPath, qualifiedPath, noAngle, read, peekOnly, noMark, curlies_endsCallee after]

/-- an operand that starts with a word is a path and what is called after it -/
theorem operand_word {n p : Nat} {v : String} {ts mid rest : List Tree} {c : Option Nat}
    (front : atom (upTo n) true ⟨.word p v :: ts, c, none⟩ = .ok (.plain, ⟨mid, c, none⟩))
    (back : iterate (trailer (upTo n)) .plain ⟨mid, c, none⟩ = .ok (.plain, ⟨rest, c, none⟩)) :
    (upTo (n + 1)).operand true ⟨.word p v :: ts, c, none⟩ = .ok (.plain, ⟨rest, c, none⟩) := by
  have reference : symbol? "&" ⟨.word p v :: ts, c, none⟩ = .ok (false, ⟨.word p v :: ts, c, none⟩) := rfl
  have operators : peekAny [sym "*", sym "!", sym "-"] ⟨.word p v :: ts, c, none⟩ =
      .ok (false, ⟨.word p v :: ts, c, none⟩) := rfl
  show operandRule (upTo n) true _ = _
  simp only [operandRule, ↓bind_run, outerAttributes_word, reference, operators, Bool.false_eq_true, ↓reduceIte, front, trailers,
    back, pure_run]

theorem isOperand_path {first : String} {names : List String} (free : ∀ w ∈ first :: names, isFreeWord w = true) :
    IsOperand 1 (Token.path (first :: names)) := by
  refine ⟨by rw [tokens_path]; exact List.cons_ne_nil _ _, fun n deep => ?_⟩
  obtain ⟨k, rfl⟩ := Nat.exists_eq_add_of_le' deep
  intro trees rest c tokens after
  have callee : endsCallee rest = true := by
    rcases endsEntry_cases after with rfl | ⟨p, joint, more, rfl⟩ | ⟨p, joint, more, rfl⟩
    · rfl
    · rfl
    · rfl
  have read := reads_atom (n := k) free trees rest c tokens callee
  obtain ⟨p, others, rfl, -, -⟩ := trees_path tokens
  exact operand_word read (iterate_stop (trailer_end after))

/-- the arguments of a call are read to the end -/
theorem reads_arguments {depth n : Nat} {arguments : List (List Token)} (h : ∀ ts ∈ arguments, IsOperand depth ts)
    (positive : 0 < depth) (deep : depth < n) :
    ∃ as, ReadsAll (commaList ((upTo n).expr true)) (Token.separated arguments) as :=
  readsAll_commaList fun ts hts => ⟨(h ts hts).1, (h ts hts).expr positive deep⟩

theorem isOperand_call {depth : Nat} {first : String} {names : List String} {arguments : List (List Token)}
    (free : ∀ w ∈ first :: names, isFreeWord w = true) (h : ∀ ts ∈ arguments, IsOperand depth ts)
    (positive : 0 < depth) :
    IsOperand (depth + 2) (Token.path (first :: names) ++ [.parens (Token.separated arguments)]) := by
  refine ⟨by rw [tokens_path]; exact List.cons_ne_nil _ _, fun n deep => ?_⟩
  obtain ⟨k, rfl⟩ := Nat.exists_eq_add_of_le' deep
  intro trees rest c tokens after
  obtain ⟨front, back, rfl, frontTokens, backTokens⟩ := tokens_eq_append _ _ tokens
  obtain ⟨o, closed, inner, rfl, innerTokens⟩ : ∃ o closed inner, back = [.group o closed .parenthesis inner] ∧
      Tree.tokens inner = Token.separated arguments := ⟨_, _, _, eq_plant backTokens, tokens_plant _ _⟩
  rw [List.append_assoc]
  have read := reads_atom (n := k + depth + 1) free front (.group o closed .parenthesis inner :: rest) c frontTokens rfl
  obtain ⟨p, others, rfl, -, -⟩ := trees_path frontTokens
  obtain ⟨as, readArguments⟩ := reads_arguments (n := k + depth + 1) h positive (by omega)
  have called : trailer (upTo (k + depth + 1)) .plain ⟨.group o closed .parenthesis inner :: rest, c, none⟩ =
      .ok (some .plain, ⟨rest, c, none⟩) := by
    have parens : peek parentheses ⟨.group o closed .parenthesis inner :: rest, c, none⟩ =
        .ok (true, ⟨.group o closed .parenthesis inner :: rest, c, none⟩) := rfl
    simp only [trailer, ↓bind_run, parens, ↓reduceIte, discard_run,
      inside_run (readArguments inner (some closed) innerTokens), pure_run]
  exact operand_word read (iterate_once called (trailer_end after))

section Method

variable {n q m o closed : Nat} {method : String} {inner rest : List Tree} {c : Option Nat} {as : List ExprShape}

/-- after a point, a method and its arguments are taken -/
theorem access_method (free : isFreeWord method = true)
    (arguments : commaList ((upTo n).expr true) ⟨inner, some closed, none⟩ = .ok (as, ⟨[], some closed, none⟩)) :
    access (upTo n) ⟨.punct q '.' false :: .word m method :: .group o closed .parenthesis inner :: rest, c, none⟩ =
      .ok ((), ⟨rest, c, none⟩) := by
  have named : member ⟨.word m method :: .group o closed .parenthesis inner :: rest, c, none⟩ =
      .ok (true, ⟨.group o closed .parenthesis inner :: rest, c, none⟩) := by
    simp only [member, ↓bind_run, peek, startsAny_identifier free, ↓reduceIte, discard_run, identifier_word free,
      pure_run]
  have point : symbol "."
      ⟨.punct q '.' false :: .word m method :: .group o closed .parenthesis inner :: rest, c, none⟩ =
        .ok ((), ⟨.word m method :: .group o closed .parenthesis inner :: rest, c, none⟩) := rfl
  have noFloat : literal? Literal.isFloat ⟨.word m method :: .group o closed .parenthesis inner :: rest, c, none⟩ =
      .ok (none, ⟨.word m method :: .group o closed .parenthesis inner :: rest, c, none⟩) := rfl
  have noSeparator : (sym "::").startsAny (.group o closed .parenthesis inner :: rest) = false := rfl
  have parens : parentheses.startsAny (.group o closed .parenthesis inner :: rest) = true := rfl
  simp (disch := decide) only [access, ↓bind_run, point, here, noFloat, pure_run, Bool.false_eq_true, ↓reduceIte,
    keyword?_word free, named, peek, noSeparator, parens, Bool.and_false, Bool.false_or, Bool.and_self, discard_run,
    inside_run arguments]

theorem trailer_method (free : isFreeWord method = true)
    (arguments : commaList ((upTo n).expr true) ⟨inner, some closed, none⟩ = .ok (as, ⟨[], some closed, none⟩)) :
    trailer (upTo n) .plain
        ⟨.punct q '.' false :: .word m method :: .group o closed .parenthesis inner :: rest, c, none⟩ =
      .ok (some .plain, ⟨rest, c, none⟩) := by
  have noCall : peek parentheses
      ⟨.punct q '.' false :: .word m method :: .group o closed .parenthesis inner :: rest, c, none⟩ =
        .ok (false, ⟨.punct q '.' false :: .word m method :: .group o closed .parenthesis inner :: rest, c, none⟩) := rfl
  have point : peekOnly "." [".."]
      ⟨.punct q '.' false :: .word m method :: .group o closed .parenthesis inner :: rest, c, none⟩ =
        .ok (true, ⟨.punct q '.' false :: .word m method :: .group o closed .parenthesis inner :: rest, c, none⟩) := rfl
  have accessed : access (upTo n)
      ⟨.punct q '.' false :: .word m method :: .group o closed .parenthesis inner :: rest, c, none⟩ =
        .ok ((), ⟨rest, c, none⟩) := access_method free arguments
  simp only [trailer, ExprShape.plain, ↓bind_run, noCall, Bool.false_eq_true, ↓reduceIte, point, Bool.not_false,
    Bool.and_self, accessed, pure_run]

end Method

theorem isOperand_methodCall {depth : Nat} {target method : String} {arguments : List (List Token)}
    (freeTarget : isFreeWord target = true) (freeMethod : isFreeWord method = true)
    (h : ∀ ts ∈ arguments, IsOperand depth ts) (positive : 0 < depth) :
    IsOperand (depth + 2) [.word target, .mark '.', .word method, .parens (Token.separated arguments)] := by
  refine IsOperand.of_plant (fun e => nomatch e) fun k places rest c after => ?_
  obtain ⟨p, q, m, o, closed, inner, spelled, innerTokens⟩ : ∃ p q m o closed inner,
      plant places [.word target, .mark '.', .word method, .parens (Token.separated arguments)] =
        [.word p target, .punct q '.' false, .word m method, .group o closed .parenthesis inner] ∧
      Tree.tokens inner = Token.separated arguments := ⟨_, _, _, _, _, _, rfl, tokens_plant _ _⟩
  rw [spelled]
  have alone : ∀ w ∈ [target], isFreeWord w = true := List.forall_mem_singleton.2 freeTarget
  have read := reads_atom (n := k + depth + 1) alone
    [.word p target] (.punct q '.' false :: .word m method :: .group o closed .parenthesis inner :: rest) c rfl rfl
  obtain ⟨as, readArguments⟩ := reads_arguments (n := k + depth + 1) h positive (by omega)
  have called := readArguments inner (some closed) innerTokens
  exact operand_word read (iterate_once (trailer_method freeMethod called) (trailer_end after))

/-! ### Lists -/

theorem readsAll_elements {depth n : Nat} {elements : List (List Token)} (h : ∀ ts ∈ elements, IsOperand depth ts)
    (positive : 0 < depth) (deep : depth < n) :
    ReadsAll (do
      if ← atEnd then return
      discard ((upTo n).expr true)
      if (← atEnd) || (← symbol? ",") then discard (commaList ((upTo n).expr true))
      else if ← symbol? ";" then discard ((upTo n).expr true)
      else refuse .commaOrSemicolon) (Token.separated elements) () := by
  intro trees c tokens
  cases elements with
  | nil =>
    obtain rfl := eq_nil_of_tokens tokens
    rfl
  | cons ts elements =>
    obtain ⟨filled, -⟩ := h ts List.mem_cons_self
    have read := (h ts List.mem_cons_self).expr positive deep
    cases elements with
    | nil =>
      obtain ⟨t, more, rfl⟩ := List.exists_cons_of_ne_nil (ne_nil_of_tokens tokens filled)
      have value := read (t :: more) [] c tokens rfl
      rw [List.append_nil] at value
      have noMore : commaList ((upTo n).expr true) ⟨[], c, none⟩ = .ok ([], ⟨[], c, none⟩) := rfl
      have noComma : symbol? "," ⟨[], c, none⟩ = .ok (false, ⟨[], c, none⟩) := rfl
      simp only [↓bind_run, atEnd, List.isEmpty_cons, Bool.false_eq_true, ↓reduceIte, discard_run, value,
        List.isEmpty_nil, Bool.true_or, noMore, noComma]
    | cons us elements =>
      obtain ⟨first, place, others, rfl, firstTokens, otherTokens⟩ := trees_separated tokens
      obtain ⟨t, more, rfl⟩ := List.exists_cons_of_ne_nil (ne_nil_of_tokens firstTokens filled)
      have value := read (t :: more) (.punct place ',' false :: others) c firstTokens rfl
      have comma : symbol? "," ⟨.punct place ',' false :: others, c, none⟩ = .ok (true, ⟨others, c, none⟩) := rfl
      obtain ⟨as, later⟩ := reads_arguments (fun zs hz => h zs (List.mem_cons_of_mem ts hz)) positive deep
      rw [List.cons_append] at value ⊢
      simp only [↓bind_run, atEnd, List.isEmpty_cons, Bool.false_eq_true, ↓reduceIte, discard_run, value, comma,
        Bool.or_true, later others c otherTokens]

theorem isOperand_list {depth : Nat} {elements : List (List Token)} (h : ∀ ts ∈ elements, IsOperand depth ts)
    (positive : 0 < depth) : IsOperand (depth + 3) [.mark '&', .brackets (Token.separated elements)] := by
  refine IsOperand.of_plant (fun e => nomatch e) fun k places rest c after => ?_
  obtain ⟨p, o, closed, inner, spelled, innerTokens⟩ : ∃ p o closed inner,
      plant places [.mark '&', .brackets (Token.separated elements)] =
        [.punct p '&' false, .group o closed .bracket inner] ∧
      Tree.tokens inner = Token.separated elements := ⟨_, _, _, _, rfl, tokens_plant _ _⟩
  rw [spelled]
  -- the reference mark stands in front of an operand of its own, one depth further down
  have list : atom (upTo (k + depth + 1)) true ⟨.group o closed .bracket inner :: rest, c, none⟩ =
      .ok (.plain, ⟨rest, c, none⟩) := by
    have dispatch : atom (upTo (k + depth + 1)) true ⟨.group o closed .bracket inner :: rest, c, none⟩ =
        arrayExpr (upTo (k + depth + 1)) ⟨.group o closed .bracket inner :: rest, c, none⟩ := rfl
    rw [dispatch, arrayExpr, bind_run, inside_run
      (readsAll_elements (n := k + depth + 1) h positive (by omega) inner (some closed) innerTokens)]
    rfl
  have noAttributes : outerAttributes (upTo (k + depth + 1)) ⟨.group o closed .bracket inner :: rest, c, none⟩ =
      .ok (false, ⟨.group o closed .bracket inner :: rest, c, none⟩) := rfl
  have noReference : symbol? "&" ⟨.group o closed .bracket inner :: rest, c, none⟩ =
      .ok (false, ⟨.group o closed .bracket inner :: rest, c, none⟩) := rfl
  have noOperator : peekAny [sym "*", sym "!", sym "-"] ⟨.group o closed .bracket inner :: rest, c, none⟩ =
      .ok (false, ⟨.group o closed .bracket inner :: rest, c, none⟩) := rfl
  have operand : (upTo (k + depth + 2)).operand true ⟨.group o closed .bracket inner :: rest, c, none⟩ =
      .ok (.plain, ⟨rest, c, none⟩) := by
    show operandRule (upTo (k + depth + 1)) true _ = _
    simp only [operandRule, ↓bind_run, noAttributes, noReference, noOperator, Bool.false_eq_true, ↓reduceIte, list,
      trailers, iterate_stop (trailer_end after), pure_run]
  have dispatch : ∀ ts, (upTo (k + depth + 3)).operand true
      ⟨.punct p '&' false :: .group o closed .bracket inner :: ts, c, none⟩ =
      ((upTo (k + depth + 2)).operand true >>= fun e => pure e.ending)
        ⟨.group o closed .bracket inner :: ts, c, none⟩ := fun _ => rfl
  show (upTo (k + depth + 3)).operand true _ = _
  rw [List.cons_append, List.singleton_append, dispatch, bind_run, operand]
  rfl

end ProcessBuild.Source.Grammar
