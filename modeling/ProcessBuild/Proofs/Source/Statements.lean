/-
Statements in generated source, as the grammar reads them: a binding of a name to an operand, an operand that starts
with a name, and the operand that a body ends with.
- `isStatement_let`, `isStatement_word`: one statement.
- `readsAll_body`: the statements of a body.
-/
import ProcessBuild.Proofs.Source.Expressions

namespace ProcessBuild.Source.Grammar

open ProcessBuild.Source.Parser

/-! ## One statement -/

/-- a name that a value is bound to is a pattern -/
theorem pattern_word {n p q : Nat} {v : String} {ts : List Tree} {c : Option Nat}
    (free : isFreeWord v = true) :
    (upTo (n + 1)).pattern ⟨.word p v :: .punct q '=' false :: ts, c, none⟩ =
      .ok (.other, ⟨.punct q '=' false :: ts, c, none⟩) := by
  have noPath : pathPatternFollows ⟨.word p v :: .punct q '=' false :: ts, c, none⟩ =
      .ok (false, ⟨.word p v :: .punct q '=' false :: ts, c, none⟩) := by
    have others : (sym "::").startsAny (.punct q '=' false :: ts) = false ∧
        (sym "!").startsAny (.punct q '=' false :: ts) = false ∧
        curlies.startsAny (.punct q '=' false :: ts) = false ∧
        parentheses.startsAny (.punct q '=' false :: ts) = false ∧
        (sym "..").startsAny (.punct q '=' false :: ts) = false := ⟨rfl, rfl, rfl, rfl, rfl⟩
    simp (disch := decide) only [pathPatternFollows, ↓bind_run, peek, peek2, peekAny, List.any_cons, List.any_nil,
      startsAny_symbol, startsAny_keyword free, startsAny_identifier free, dropTree, others, Bool.or_self,
      Bool.false_and, Bool.false_eq_true, ↓reduceIte, pure_run]
  have noLiteral : Expected.literal.startsAny (.word p v :: .punct q '=' false :: ts) = false := by
    show (v == "true" || v == "false") = false
    rw [beq_eq_false_iff_ne.2 (ne_of_isFreeWord free (k := "true") rfl),
      beq_eq_false_iff_ne.2 (ne_of_isFreeWord free (k := "false") rfl), Bool.or_self]
  have noBinding : symbol? "@" ⟨.punct q '=' false :: ts, c, none⟩ = .ok (false, ⟨.punct q '=' false :: ts, c, none⟩) := rfl
  show patternRule (upTo n) _ = _
  simp (disch := decide) only [patternRule, ↓bind_run, noPath, peek, peekAny, List.any_cons, List.any_nil,
    startsAny_symbol, startsAny_keyword free, startsAny_identifier free, noLiteral, Bool.or_self, Bool.or_true,
    Bool.true_or, Bool.false_eq_true, ↓reduceIte, namePattern, discard_run, keyword?_word free, identifier_word free,
    noBinding, pure_run]

/-- an operand that starts with a name, and what shows that it is no item and no block -/
theorem statementExpr_word {n p q : Nat} {v : String} {ts rest : List Tree} {c : Option Nat}
    (free : isFreeWord v = true)
    (operand : (upTo (n + 1)).operand true ⟨.word p v :: .punct q '.' false :: ts, c, none⟩ = .ok (.plain, ⟨rest, c, none⟩))
    (after : endsEntry rest = true) :
    (upTo (n + 2)).statementExpr ⟨.word p v :: .punct q '.' false :: ts, c, none⟩ = .ok (.plain, ⟨rest, c, none⟩) := by
  have noBlock : curlies.startsAny (.word p v :: .punct q '.' false :: ts) = false ∧
      Expected.lifetime.startsAny (.word p v :: .punct q '.' false :: ts) = false := ⟨rfl, rfl⟩
  have noClosure : closureFollows ⟨.word p v :: .punct q '.' false :: ts, c, none⟩ =
      .ok (false, ⟨.word p v :: .punct q '.' false :: ts, c, none⟩) := by
    simp (disch := decide) only [closureFollows, ↓bind_run, peek, peek2, peekAny, List.any_cons, List.any_nil,
      startsAny_symbol, startsAny_keyword free, Bool.or_self, Bool.false_and, Bool.false_eq_true, ↓reduceIte, pure_run]
  have start : statementStart (upTo (n + 1)) ⟨.word p v :: .punct q '.' false :: ts, c, none⟩ =
      .ok (.plain, ⟨rest, c, none⟩) := by
    simp (disch := decide) only [statementStart, ↓bind_run, peek, peek2, startsAny_keyword free, noBlock, noClosure,
      Bool.not_false, Bool.false_and, Bool.false_eq_true, ↓reduceIte, operand]
  show statementExprRule (upTo (n + 1)) _ = _
  simp only [statementExprRule, ↓bind_run, discard_run, outerAttributes_word, start, ExprShape.plain, ne_eq, reduceCtorEq,
    not_false_eq_true, ↓reduceIte]
  exact operators_end after

/-- a statement that starts with a name and a point is neither a macro nor an item -/
theorem noItem_word {p q : Nat} {v : String} {ts : List Tree} {c : Option Nat}
    (free : isFreeWord v = true) :
    macroUse ⟨.word p v :: .punct q '.' false :: ts, c, none⟩ =
        .ok (.none, ⟨.word p v :: .punct q '.' false :: ts, c, none⟩) ∧
      itemFollows ⟨.word p v :: .punct q '.' false :: ts, c, none⟩ =
        .ok (false, ⟨.word p v :: .punct q '.' false :: ts, c, none⟩) := by
  -- a point follows the word, and no item and no use of a macro goes on with a point
  have point : ∀ k, (sym k).startsAny (.punct q '.' false :: ts) = (dropSymbol k.toList (.punct q '.' false :: ts)).isSome :=
    fun _ => rfl
  have relative : symbol? "::" ⟨.word p v :: .punct q '.' false :: ts, c, none⟩ =
      .ok (false, ⟨.word p v :: .punct q '.' false :: ts, c, none⟩) := rfl
  have single : symbol? "::" ⟨.punct q '.' false :: ts, c, none⟩ = .ok (false, ⟨.punct q '.' false :: ts, c, none⟩) := rfl
  have word : anyWord ⟨.word p v :: .punct q '.' false :: ts, c, none⟩ = .ok (v, ⟨.punct q '.' false :: ts, c, none⟩) := rfl
  have named : peekAny plainSegments ⟨.word p v :: .punct q '.' false :: ts, c, none⟩ =
      .ok (true, ⟨.word p v :: .punct q '.' false :: ts, c, none⟩) := by
    simp only [peekAny, plainSegments, List.any_cons, startsAny_identifier free, Bool.true_or]
  have path : plainPath ⟨.word p v :: .punct q '.' false :: ts, c, none⟩ =
      .ok (⟨false, [v]⟩, ⟨.punct q '.' false :: ts, c, none⟩) := by
    simp only [plainPath, ↓bind_run, relative, roundsLeft, plainSegmentList, named, word, single, ↓reduceIte,
      Bool.false_eq_true, pure_run, List.isEmpty_cons]
  constructor
  · have noMark : (sym "!").startsAny (.punct q '.' false :: ts) = false := rfl
    simp only [macroUse, ahead, ↓bind_run, attempt, path, peek, noMark, Bool.false_eq_true, ↓reduceIte, pure_run]
  · have others : Expected.identifier.startsAny (dropTree (.word p v :: .punct q '.' false :: ts)) = false ∧
        (kw "trait").startsAny (dropTree (.word p v :: .punct q '.' false :: ts)) = false ∧
        (kw "unsafe").startsAny (dropTree (.word p v :: .punct q '.' false :: ts)) = false ∧
        (kw "impl").startsAny (dropTree (.word p v :: .punct q '.' false :: ts)) = false := ⟨rfl, rfl, rfl, rfl⟩
    simp (disch := decide) only [itemFollows, staticItemFollows, constItemFollows, ↓bind_run, peek, peek2, peekAny,
      List.any_cons, List.any_nil, startsAny_keyword free, others, Bool.or_self, Bool.false_and, Bool.and_false,
      Bool.false_eq_true, ↓reduceIte, pure_run]

section Rounds

variable {r : Rules} {p : Nat} {w : String} {ts : List Tree} {rest : List Tree} {c : Option Nat}

/-- a round at a word is a statement, after which another one may follow -/
theorem statementRound_closed (h : statement r ⟨.word p w :: ts, c, none⟩ = .ok (false, ⟨rest, c, none⟩)) :
    statementRound r ⟨.word p w :: ts, c, none⟩ = .ok (some (), ⟨rest, c, none⟩) := by
  have noSemicolon : asLongAs (peek (sym ";")) (symbol ";") ⟨.word p w :: ts, c, none⟩ =
      .ok ([], ⟨.word p w :: ts, c, none⟩) := rfl
  simp only [statementRound, ↓bind_run, discard_run, noSemicolon, atEnd, List.isEmpty_cons, h, Bool.false_and,
    Bool.false_eq_true, ↓reduceIte, pure_run]

/-- a round at a word may be a statement without a semicolon, which ends the body -/
theorem statementRound_open (h : statement r ⟨.word p w :: ts, c, none⟩ = .ok (true, ⟨[], c, none⟩)) :
    statementRound r ⟨.word p w :: ts, c, none⟩ = .ok (some (), ⟨[], c, none⟩) := by
  have noSemicolon : asLongAs (peek (sym ";")) (symbol ";") ⟨.word p w :: ts, c, none⟩ =
      .ok ([], ⟨.word p w :: ts, c, none⟩) := rfl
  simp only [statementRound, ↓bind_run, discard_run, noSemicolon, atEnd, List.isEmpty_cons, h, List.isEmpty_nil,
    Bool.not_true, Bool.and_false, Bool.false_eq_true, ↓reduceIte, pure_run]

theorem statement_let {n q o : Nat} {v : String} {z : Nat} (free : isFreeWord v = true)
    (value : (upTo (n + 1)).expr true ⟨ts, c, none⟩ = .ok (.plain, ⟨.punct z ';' false :: rest, c, none⟩)) :
    statement (upTo (n + 1)) ⟨.word p "let" :: .word q v :: .punct o '=' false :: ts, c, none⟩ =
      .ok (false, ⟨rest, c, none⟩) := by
  have noMacro : macroUse ⟨.word p "let" :: .word q v :: .punct o '=' false :: ts, c, none⟩ =
      .ok (.none, ⟨.word p "let" :: .word q v :: .punct o '=' false :: ts, c, none⟩) := rfl
  have isLet : (kw "let").startsAny (.word p "let" :: .word q v :: .punct o '=' false :: ts) = true := rfl
  have noType : symbol? ":" ⟨.punct o '=' false :: ts, c, none⟩ = .ok (false, ⟨.punct o '=' false :: ts, c, none⟩) := rfl
  have equals : symbol? "=" ⟨.punct o '=' false :: ts, c, none⟩ = .ok (true, ⟨ts, c, none⟩) := rfl
  have noElse : keyword? "else" ⟨.punct z ';' false :: rest, c, none⟩ =
      .ok (false, ⟨.punct z ';' false :: rest, c, none⟩) := rfl
  have semicolon : symbol ";" ⟨.punct z ';' false :: rest, c, none⟩ = .ok ((), ⟨rest, c, none⟩) := rfl
  simp only [statement, ↓bind_run, discard_run, outerAttributes_word, noMacro, peek, isLet, ↓reduceIte, localBinding,
    keyword_word,
    pattern_word free, noType, Bool.false_eq_true, equals, value, ExprShape.plain, noElse, semicolon, pure_run]

/-- an operand that starts with a name and a point is a statement, whether or not a semicolon closes it -/
theorem statement_word {n q : Nat} {v : String} {closed : Bool} {rest' : List Tree} (free : isFreeWord v = true)
    (operand : (upTo (n + 1)).operand true ⟨.word p v :: .punct q '.' false :: ts, c, none⟩ = .ok (.plain, ⟨rest, c, none⟩))
    (after : endsEntry rest = true) (semicolon : symbol? ";" ⟨rest, c, none⟩ = .ok (closed, ⟨rest', c, none⟩)) :
    statement (upTo (n + 2)) ⟨.word p v :: .punct q '.' false :: ts, c, none⟩ = .ok (!closed, ⟨rest', c, none⟩) := by
  obtain ⟨noMacro, noItem⟩ := @noItem_word p q v ts c free
  have read := statementExpr_word free operand after
  simp (disch := decide) only [statement, ↓bind_run, discard_run, outerAttributes_word, noMacro, peek,
    startsAny_keyword free,
    noItem, Bool.or_self, Bool.false_eq_true, ↓reduceIte, read, semicolon]
  cases closed with
  | true => rfl
  | false => rfl

end Rounds

/-! ## Bodies -/

/-- tokens that the rules of a depth read as a statement of a body -/
def IsStatement (depth : Nat) (ts : List Token) : Prop :=
  ts ≠ [] ∧ ∀ n, depth ≤ n → Reads anything (statementRound (upTo n)) ts (some ())

theorem IsStatement.mono {depth depth' : Nat} {ts : List Token} (h : IsStatement depth ts) (le : depth ≤ depth') :
    IsStatement depth' ts := ⟨h.1, fun n deep => h.2 n (le.trans deep)⟩

theorem isStatement_let {depth : Nat} {v : String} {ts : List Token} (free : isFreeWord v = true)
    (h : IsOperand depth ts) (positive : 0 < depth) :
    IsStatement (depth + 1) ([Token.word "let", .word v, .mark '='] ++ (ts ++ [Token.mark ';'])) := by
  refine ⟨fun e => (nomatch e), fun n deep trees rest c tokens after => ?_⟩
  obtain ⟨k, rfl⟩ := Nat.exists_eq_add_of_le' deep
  obtain ⟨front, back, rfl, frontTokens, backTokens⟩ := tokens_eq_append _ _ tokens
  obtain ⟨value, last, rfl, valueTokens, lastTokens⟩ := tokens_eq_append _ _ backTokens
  obtain ⟨p, q, o, rfl⟩ : ∃ p q o, front = [.word p "let", .word q v, .punct o '=' false] := ⟨_, _, _, eq_plant frontTokens⟩
  obtain ⟨z, rfl⟩ : ∃ z, last = [.punct z ';' false] := ⟨_, eq_plant lastTokens⟩
  have read := h.expr (n := k + depth + 1) positive (by omega) value (.punct z ';' false :: rest) c valueTokens rfl
  rw [List.append_assoc, List.append_assoc]
  exact statementRound_closed (statement_let free read)

/-- an operand that starts with a name and a point, with its semicolon -/
theorem isStatement_word {depth : Nat} {v : String} {ts : List Token} (free : isFreeWord v = true)
    (h : IsOperand depth (.word v :: .mark '.' :: ts)) (positive : 0 < depth) :
    IsStatement (depth + 1) (Token.word v :: .mark '.' :: ts ++ [Token.mark ';']) := by
  refine ⟨fun e => (nomatch e), fun n deep trees rest c tokens after => ?_⟩
  obtain ⟨k, rfl⟩ : ∃ k, n = k + 2 := Nat.exists_eq_add_of_le' (by omega)
  obtain ⟨front, last, rfl, frontTokens, lastTokens⟩ := tokens_eq_append _ _ tokens
  obtain ⟨z, rfl⟩ : ∃ z, last = [.punct z ';' false] := ⟨_, eq_plant lastTokens⟩
  have read := h.2 (k + 1) (by omega) front (.punct z ';' false :: rest) c frontTokens rfl
  obtain ⟨p, q, others, rfl⟩ : ∃ p q others, front = .word p v :: .punct q '.' false :: others := ⟨_, _, _, eq_plant frontTokens⟩
  rw [List.append_assoc]
  exact statementRound_closed (statement_word free read rfl rfl)

/-- **A body of statements and a result** is read to the end. -/
theorem readsAll_body {depth n : Nat} {statements : List (List Token)} {v : String} {result : List Token}
    (h : ∀ ts ∈ statements, IsStatement depth ts) (free : isFreeWord v = true)
    (last : IsOperand depth (.word v :: .mark '.' :: result)) (positive : 0 < depth) (deep : depth + 1 < n) :
    ReadsAll (upTo n).statements (statements.flatMap id ++ Token.word v :: .mark '.' :: result) () := by
  obtain ⟨k, rfl⟩ : ∃ k, n = k + 3 := Nat.exists_eq_add_of_le' (by omega)
  intro trees c tokens
  obtain ⟨front, back, rfl, frontTokens, backTokens⟩ := tokens_eq_append _ _ tokens
  have read := last.2 (k + 1) (by omega) back [] c backTokens rfl
  obtain ⟨p, q, others, rfl⟩ : ∃ p q others, back = .word p v :: .punct q '.' false :: others := ⟨_, _, _, eq_plant backTokens⟩
  rw [List.append_nil] at read
  -- the result takes one more round, after which the body is read
  have round := statementRound_open (statement_word free read rfl rfl)
  have tail : ∀ m, (.word p v :: .punct q '.' false :: others : List Tree).length < m →
      collectFor m (statementRound (upTo (k + 2))) ⟨.word p v :: .punct q '.' false :: others, c, none⟩ =
        .ok ([()], ⟨[], c, none⟩) := by
    intro m enough
    cases m with
    | zero => exact absurd enough (Nat.not_lt_zero _)
    | succ m =>
      have stopped : statementRound (upTo (k + 2)) ⟨[], c, none⟩ = .ok (none, ⟨[], c, none⟩) := rfl
      simp only [collectFor, bind_run, round, collectFor_stop stopped, pure_run]
  have chunks : Tree.tokens front = (statements.map fun ts => (ts, ())).flatMap Prod.fst := by
    rw [frontTokens, List.flatMap_map]
    rfl
  have collected := collect_chunks anything (fun x hx => by
    obtain ⟨ts, hts, rfl⟩ := List.mem_map.1 hx
    exact ⟨(h ts hts).1, (h ts hts).2 (k + 2) (by omega)⟩) (fun _ _ _ _ _ => rfl) rfl tail chunks
  show statementsRule (upTo (k + 2)) _ = _
  simp only [statementsRule, discard_run, collected, Except.map]

end ProcessBuild.Source.Grammar
