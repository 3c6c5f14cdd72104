/-
Parsers on trees of given tokens. Where trees stand in a text only matters to faults, so what a parser makes of trees
is said of their tokens: `Reads next p ts a` says that `p` takes trees of the tokens `ts` and gives `a`, whenever what
comes after them satisfies `next`. No group is left before all of it is read.
- `Reads.of_plant`: it is enough to look at one tree for each token, the same for all places.
- `collect_chunks`, `readsAll_toEnd`, `toEnd_refused`, `readsAll_commaList`: what loops make of one value after another.
-/
import ProcessBuild.Source.Grammar
import ProcessBuild.Proofs.Source.Lexing

namespace ProcessBuild.Source

/-! ## Trees of tokens -/

namespace Tree

/-- where a group is closed -/
def closing : Tree → Nat
  | group _ closed _ _ => closed
  | _ => 0

def inside : Tree → List Tree
  | group _ _ _ inner => inner
  | _ => []

end Tree

mutual

/-- the tree of a token at the place of another tree -/
def Token.plant (at_ : Tree) : Token → Tree
  | .word name => .word at_.start name
  | .punct c joint => .punct at_.start c joint
  | .literal text => .literal at_.start text
  | .group d inner => .group at_.start at_.closing d (plant at_.inside inner)

/-- the trees of tokens at the places of other trees -/
def plant (places : List Tree) : List Token → List Tree
  | [] => []
  | t :: rest => t.plant (places.headD default) :: plant places.tail rest

end

mutual

theorem token_plant_token (t : Tree) : t.token.plant t = t :=
  match t with
  | .word _ _ => rfl
  | .punct _ _ _ => rfl
  | .literal _ _ => rfl
  | .group opened closed d inner => by
    rw [Tree.token, Token.plant]
    exact congrArg (Tree.group opened closed d) (plant_tokens inner)

/-- trees are the trees of their own tokens at their own places -/
theorem plant_tokens (ts : List Tree) : plant ts (Tree.tokens ts) = ts :=
  match ts with
  | [] => rfl
  | t :: rest => by
    rw [Tree.tokens, plant, List.headD_cons, List.tail_cons, token_plant_token t, plant_tokens rest]

end

/-- trees of known tokens are planted from them -/
theorem eq_plant {trees : List Tree} {ts : List Token} (h : Tree.tokens trees = ts) : trees = plant trees ts := by
  rw [← h, plant_tokens]

mutual

theorem token_plant (at_ : Tree) (t : Token) : (t.plant at_).token = t :=
  match t with
  | .word _ => rfl
  | .punct _ _ => rfl
  | .literal _ => rfl
  | .group d inner => by rw [Token.plant, Tree.token, tokens_plant at_.inside inner]

theorem tokens_plant (places : List Tree) (ts : List Token) : Tree.tokens (plant places ts) = ts :=
  match ts with
  | [] => rfl
  | t :: rest => by rw [plant, Tree.tokens, token_plant _ t, tokens_plant places.tail rest]

end

/-! ## Parsers one after another -/

namespace Parser

variable {α β : Type}

theorem bind_run (p : Parser α) (f : α → Parser β) (s : Stream) :
    (p >>= f) s = match p s with
      | .ok (a, t) => f a t
      | .error e => .error e := rfl

theorem pure_run (a : α) (s : Stream) : (pure a : Parser α) s = .ok (a, s) := rfl

theorem map_run (f : α → β) (p : Parser α) (s : Stream) :
    (f <$> p) s = match p s with
      | .ok (a, t) => .ok (f a, t)
      | .error e => .error e := rfl

theorem discard_run (p : Parser α) (s : Stream) :
    (discard p) s = match p s with
      | .ok (_, t) => .ok ((), t)
      | .error e => .error e := rfl

/-- a group is taken when its inside is read to the end -/
theorem inside_run {p : Parser α} {a : α} {inner : List Tree} {opened closed : Nat} {d : Delimiter} {ts : List Tree}
    {c : Option Nat} (h : p ⟨inner, some closed, none⟩ = .ok (a, ⟨[], some closed, none⟩)) :
    inside d p ⟨.group opened closed d inner :: ts, c, none⟩ = .ok (a, ⟨ts, c, none⟩) := by
  unfold inside
  simp only [if_true, h, List.head?_nil, Option.map_none, Option.or_none]

end Parser

open ProcessBuild.Source.Parser

/-! ## Words -/

/-- an identifier is none of the words that are not -/
theorem ne_of_isFreeWord {v k : String} (h : isFreeWord v = true) (hk : isFreeWord k = false) : v ≠ k := by
  rintro rfl
  rw [h] at hk
  cases hk

section Words

variable {v k : String} {p : Nat} {ts : List Tree} {c : Option Nat}

theorem identifier_word (h : isFreeWord v = true) :
    identifier ⟨.word p v :: ts, c, none⟩ = .ok (v, ⟨ts, c, none⟩) := if_pos h

theorem startsAny_keyword (h : isFreeWord v = true) (hk : isFreeWord k = false) :
    (kw k).startsAny (.word p v :: ts) = false := beq_eq_false_iff_ne.2 (ne_of_isFreeWord h hk)

theorem startsAny_identifier (h : isFreeWord v = true) : Expected.identifier.startsAny (.word p v :: ts) = true := h

theorem startsAny_symbol (filled : k.toList ≠ []) : (sym k).startsAny (.word p v :: ts) = false := by
  obtain ⟨x, xs, e⟩ := List.exists_cons_of_ne_nil filled
  show (dropSymbol k.toList (.word p v :: ts)).isSome = false
  rw [e]
  rfl

theorem keyword_word : keyword v ⟨.word p v :: ts, c, none⟩ = .ok ((), ⟨ts, c, none⟩) := if_pos rfl

theorem keyword?_self : keyword? v ⟨.word p v :: ts, c, none⟩ = .ok (true, ⟨ts, c, none⟩) := if_pos rfl

theorem keyword?_other (h : v ≠ k) : keyword? k ⟨.word p v :: ts, c, none⟩ = .ok (false, ⟨.word p v :: ts, c, none⟩) :=
  if_neg h

theorem keyword?_word (h : isFreeWord v = true) (hk : isFreeWord k = false) :
    keyword? k ⟨.word p v :: ts, c, none⟩ = .ok (false, ⟨.word p v :: ts, c, none⟩) :=
  keyword?_other (ne_of_isFreeWord h hk)

end Words

/-! ## Reading -/

/-- what comes after the trees that a parser takes -/
abbrev Next := List Tree → Bool

/-- anything comes after the trees that a parser takes -/
def anything : Next := fun _ => true

/-- the parser takes trees of the tokens and gives the value, whenever what comes after them is as expected -/
def Reads {α : Type} (next : Next) (p : Parser α) (ts : List Token) (a : α) : Prop :=
  ∀ (trees rest : List Tree) (c : Option Nat), Tree.tokens trees = ts → next rest = true →
    p ⟨trees ++ rest, c, none⟩ = .ok (a, ⟨rest, c, none⟩)

/-- **One tree for each token** shows what a parser makes of all trees of the tokens. -/
theorem Reads.of_plant {α : Type} {next : Next} {p : Parser α} {ts : List Token} {a : α}
    (h : ∀ (places rest : List Tree) (c : Option Nat), next rest = true →
      p ⟨plant places ts ++ rest, c, none⟩ = .ok (a, ⟨rest, c, none⟩)) : Reads next p ts a := by
  intro trees rest c tokens after
  have read := h trees rest c after
  rwa [← tokens, plant_tokens] at read

/-- the trees of some tokens and of others are the trees of all of them -/
theorem tokens_eq_append {trees : List Tree} (ts us : List Token) (h : Tree.tokens trees = ts ++ us) :
    ∃ first second, trees = first ++ second ∧ Tree.tokens first = ts ∧ Tree.tokens second = us := by
  induction ts generalizing trees with
  | nil => exact ⟨[], trees, rfl, rfl, h⟩
  | cons t rest ih =>
    cases trees with
    | nil => cases h
    | cons tree trees =>
      rw [Tree.tokens, List.cons_append, List.cons.injEq] at h
      obtain ⟨first, second, rfl, firstTokens, secondTokens⟩ := ih h.2
      exact ⟨tree :: first, second, rfl, by rw [Tree.tokens, h.1, firstTokens], secondTokens⟩

theorem eq_nil_of_tokens {trees : List Tree} (h : Tree.tokens trees = []) : trees = [] := by
  cases trees with
  | nil => rfl
  | cons t rest => cases h

theorem ne_nil_of_tokens {trees : List Tree} {ts : List Token} (h : Tree.tokens trees = ts) (filled : ts ≠ []) :
    trees ≠ [] := by
  rintro rfl
  exact filled h.symm

/-- a parser takes the whole stream and gives the value -/
def ReadsAll {α : Type} (p : Parser α) (ts : List Token) (a : α) : Prop :=
  ∀ (trees : List Tree) (c : Option Nat), Tree.tokens trees = ts →
    p ⟨trees, c, none⟩ = .ok (a, ⟨[], c, none⟩)

theorem ReadsAll.of_plant {α : Type} {p : Parser α} {ts : List Token} {a : α}
    (h : ∀ (places : List Tree) (c : Option Nat), p ⟨plant places ts, c, none⟩ = .ok (a, ⟨[], c, none⟩)) :
    ReadsAll p ts a := by
  intro trees c tokens
  have read := h trees c
  rwa [← tokens, plant_tokens] at read

theorem Reads.all {α : Type} {next : Next} {p : Parser α} {ts : List Token} {a : α} (h : Reads next p ts a)
    (atEnd : next [] = true) : ReadsAll p ts a := by
  intro trees c tokens
  have read := h trees [] c tokens atEnd
  rwa [List.append_nil] at read

/-! ## Loops -/

/-- what comes after chunks, or the next one of them, has a property that each chunk starts with -/
theorem follows_chunks {α : Type} {between : Next} {chunks : List (List Token × α)} {trees rest : List Tree}
    (goesOn : ∀ x ∈ chunks, ∀ trees others, Tree.tokens trees = x.1 → between (trees ++ others) = true)
    (ends : between rest = true) (tokens : Tree.tokens trees = chunks.flatMap Prod.fst) :
    between (trees ++ rest) = true := by
  cases chunks with
  | nil =>
    obtain rfl := eq_nil_of_tokens tokens
    exact ends
  | cons x chunks =>
    obtain ⟨first, second, rfl, firstTokens, -⟩ := tokens_eq_append _ _ (tokens.trans List.flatMap_cons)
    rw [List.append_assoc]
    exact goesOn x List.mem_cons_self first (second ++ rest) firstTokens

/-- the step of a loop gives one value after another; `between` is what a step needs to come after it, and what becomes of
the loop from `rest` on is known -/
theorem collect_chunks {α : Type} (between : Next) {step : Parser (Option α)} {chunks : List (List Token × α)}
    {rest : List Tree} {c : Option Nat} {last : Except SyntaxFault (List α × Stream)}
    (h : ∀ x ∈ chunks, x.1 ≠ [] ∧ Reads between step x.1 (some x.2))
    (goesOn : ∀ x ∈ chunks, ∀ trees others, Tree.tokens trees = x.1 → between (trees ++ others) = true)
    (ends : between rest = true) (tail : ∀ n, rest.length < n → collectFor n step ⟨rest, c, none⟩ = last)
    {trees : List Tree} (tokens : Tree.tokens trees = chunks.flatMap Prod.fst) :
    collect step ⟨trees ++ rest, c, none⟩ = last.map fun a => (chunks.map Prod.snd ++ a.1, a.2) := by
  have rounds : ∀ (n : Nat) (trees : List Tree), (trees ++ rest).length < n →
      Tree.tokens trees = chunks.flatMap Prod.fst →
        collectFor n step ⟨trees ++ rest, c, none⟩ = last.map fun a => (chunks.map Prod.snd ++ a.1, a.2) := by
    -- induction on the chunks with any number of rounds that exceeds the trees left
    clear tokens
    induction chunks with
    | nil =>
      intro n trees enough tokens
      obtain rfl := eq_nil_of_tokens tokens
      rw [List.nil_append, tail n enough]
      cases last with
      | error fault => rfl
      | ok a => rfl
    | cons x chunks ih =>
      intro n trees enough tokens
      obtain ⟨filled, read⟩ := h x List.mem_cons_self
      have goesOnLater := fun y hy => goesOn y (List.mem_cons_of_mem x hy)
      obtain ⟨first, second, rfl, firstTokens, secondTokens⟩ :=
        tokens_eq_append _ _ (tokens.trans List.flatMap_cons)
      have positive := List.length_pos_iff.2 (ne_nil_of_tokens firstTokens filled)
      rw [List.append_assoc, List.length_append] at enough
      have follows := follows_chunks goesOnLater ends secondTokens
      cases n with
      | zero => exact absurd enough (Nat.not_lt_zero _)
      | succ n =>
        have others := ih (fun y hy => h y (List.mem_cons_of_mem x hy)) goesOnLater n second (by omega) secondTokens
        rw [List.append_assoc]
        simp only [collectFor, bind_run, read first (second ++ rest) c firstTokens follows, others]
        cases last with
        | error fault => rfl
        | ok a => rfl
  exact rounds _ trees (Nat.lt_succ_self _) tokens

theorem collectFor_stop {α : Type} {step : Parser (Option α)} {n : Nat} {s : Stream} (h : step s = .ok (none, s)) :
    collectFor n step s = .ok ([], s) := by
  cases n with
  | zero => rfl
  | succ n => simp only [collectFor, bind_run, h, pure_run]

/-- the step of a loop gives one value after another, and nothing where the loop ends -/
theorem reads_collect {α : Type} (next between : Next) {step : Parser (Option α)} {chunks : List (List Token × α)}
    (h : ∀ x ∈ chunks, x.1 ≠ [] ∧ Reads between step x.1 (some x.2))
    (goesOn : ∀ x ∈ chunks, ∀ trees rest, Tree.tokens trees = x.1 → between (trees ++ rest) = true)
    (ends : ∀ rest, next rest = true → between rest = true)
    (stops : ∀ rest c, next rest = true → step ⟨rest, c, none⟩ = .ok (none, ⟨rest, c, none⟩)) :
    Reads next (collect step) (chunks.flatMap Prod.fst) (chunks.map Prod.snd) := by
  intro trees rest c tokens after
  rw [collect_chunks between h goesOn (ends rest after) (fun n _ => collectFor_stop (stops rest c after)) tokens]
  show Except.ok (chunks.map Prod.snd ++ [], _) = _
  rw [List.append_nil]

/-- one value after another, as long as there are trees left -/
theorem reads_goesOn {α : Type} {p : Parser α} {ts : List Token} {a : α} (filled : ts ≠ []) (read : Reads anything p ts a) :
    Reads anything (do
      if ← atEnd then return none
      return some (← p)) ts (some a) := by
  intro trees rest c tokens after
  obtain ⟨t, more, rfl⟩ := List.exists_cons_of_ne_nil (ne_nil_of_tokens tokens filled)
  have taken := read (t :: more) rest c tokens after
  have goesOn : atEnd ⟨t :: more ++ rest, c, none⟩ = .ok (false, ⟨t :: more ++ rest, c, none⟩) := rfl
  simp only [bind_run, goesOn, Bool.false_eq_true, if_false, taken, pure_run]

/-- a parser gives one value after another to the end of the stream -/
theorem readsAll_toEnd {α : Type} {p : Parser α} {chunks : List (List Token × α)}
    (h : ∀ x ∈ chunks, x.1 ≠ [] ∧ Reads anything p x.1 x.2) :
    ReadsAll (toEnd p) (chunks.flatMap Prod.fst) (chunks.map Prod.snd) := by
  have steps := fun x hx => And.intro (h x hx).1 (reads_goesOn (h x hx).1 (h x hx).2)
  refine Reads.all (reads_collect List.isEmpty anything steps (fun _ _ _ _ _ => rfl) (fun _ _ => rfl)
    fun rest c empty => ?_) rfl
  obtain rfl := List.isEmpty_iff.1 empty
  rfl

/-- a parser that fails after some values fails -/
theorem toEnd_refused {α : Type} {p : Parser α} {chunks : List (List Token × α)} {trees rest : List Tree} {c : Option Nat}
    {fault : SyntaxFault} (h : ∀ x ∈ chunks, x.1 ≠ [] ∧ Reads anything p x.1 x.2)
    (tokens : Tree.tokens trees = chunks.flatMap Prod.fst) (filled : rest ≠ [])
    (refused : p ⟨rest, c, none⟩ = .error fault) : toEnd p ⟨trees ++ rest, c, none⟩ = .error fault := by
  have steps := fun x hx => And.intro (h x hx).1 (reads_goesOn (h x hx).1 (h x hx).2)
  obtain ⟨t, more, rfl⟩ := List.exists_cons_of_ne_nil filled
  have goesOn : atEnd ⟨t :: more, c, none⟩ = .ok (false, ⟨t :: more, c, none⟩) := rfl
  have tail : ∀ n, (t :: more).length < n → collectFor n (do
      if ← atEnd then return none
      return some (← p)) ⟨t :: more, c, none⟩ = .error fault := by
    intro n enough
    cases n with
    | zero => exact absurd enough (Nat.not_lt_zero _)
    | succ n => simp only [collectFor, bind_run, goesOn, Bool.false_eq_true, if_false, refused]
  have collected := collect_chunks anything steps (fun _ _ _ _ _ => rfl) rfl tail tokens
  exact collected

/-- an entry of a list or a statement ends here: at the end of the stream, at a comma or at a semicolon -/
def endsEntry : Next
  | [] => true
  | .punct _ c _ :: _ => c == ',' || c == ';'
  | _ => false

/-- the trees of several entries: those of the first one, a comma, and those of the others -/
theorem trees_separated {ts us : List Token} {entries : List (List Token)} {trees : List Tree}
    (tokens : Tree.tokens trees = Token.separated (ts :: us :: entries)) :
    ∃ first place others, trees = first ++ .punct place ',' false :: others ∧ Tree.tokens first = ts ∧
      Tree.tokens others = Token.separated (us :: entries) := by
  rw [Token.separated] at tokens
  · obtain ⟨first, second, rfl, firstTokens, secondTokens⟩ := tokens_eq_append _ _ tokens
    have planted := plant_tokens second
    rw [secondTokens, plant, Token.mark, Token.plant] at planted
    exact ⟨first, _, _, congrArg (first ++ ·) planted.symm, firstTokens, tokens_plant _ _⟩
  · exact fun e => nomatch e

/-- a parser gives one value after another, with commas between them -/
theorem readsAll_commaList {α : Type} {p : Parser α} {a : α} {chunks : List (List Token)}
    (h : ∀ ts ∈ chunks, ts ≠ [] ∧ Reads endsEntry p ts a) :
    ∃ as, ReadsAll (commaList p) (Token.separated chunks) as := by
  have rounds : ∀ (n : Nat) (trees : List Tree) (c : Option Nat), trees.length < n →
      Tree.tokens trees = Token.separated chunks →
        separatedFor n "," atEnd p ⟨trees, c, none⟩ = .ok (chunks.map fun _ => a, ⟨[], c, none⟩) := by
    -- the rounds are bounded by the trees that are left, and each of them takes one tree at least
    induction chunks with
    | nil =>
      intro n trees c enough tokens
      cases n with
      | zero => exact absurd enough (Nat.not_lt_zero _)
      | succ n =>
        obtain rfl := eq_nil_of_tokens tokens
        rfl
    | cons ts chunks ih =>
      intro n trees c enough tokens
      obtain ⟨filled, read⟩ := h ts List.mem_cons_self
      cases n with
      | zero => exact absurd enough (Nat.not_lt_zero _)
      | succ n =>
        cases chunks with
        | nil =>
          obtain ⟨t, more, rfl⟩ := List.exists_cons_of_ne_nil (ne_nil_of_tokens tokens filled)
          have value := read (t :: more) [] c tokens rfl
          rw [List.append_nil] at value
          have goesOn : atEnd ⟨t :: more, c, none⟩ = .ok (false, ⟨t :: more, c, none⟩) := rfl
          have ended : atEnd ⟨[], c, none⟩ = .ok (true, ⟨[], c, none⟩) := rfl
          simp only [separatedFor, bind_run, goesOn, Bool.false_eq_true, if_false, value, ended, if_true, pure_run,
            List.map_cons, List.map_nil]
        | cons us chunks =>
          obtain ⟨first, place, others, rfl, firstTokens, otherTokens⟩ := trees_separated tokens
          obtain ⟨t, more, rfl⟩ := List.exists_cons_of_ne_nil (ne_nil_of_tokens firstTokens filled)
          have value := read (t :: more) (.punct place ',' false :: others) c firstTokens rfl
          have goesOn : atEnd ⟨t :: more ++ .punct place ',' false :: others, c, none⟩ =
              .ok (false, ⟨t :: more ++ .punct place ',' false :: others, c, none⟩) := rfl
          have between : atEnd ⟨.punct place ',' false :: others, c, none⟩ =
              .ok (false, ⟨.punct place ',' false :: others, c, none⟩) := rfl
          have comma : symbol "," ⟨.punct place ',' false :: others, c, none⟩ = .ok ((), ⟨others, c, none⟩) := rfl
          simp only [List.length_append, List.length_cons] at enough
          have later := ih (fun y hy => h y (List.mem_cons_of_mem ts hy)) n others c (by omega) otherTokens
          simp only [separatedFor, bind_run, goesOn, Bool.false_eq_true, if_false, value, between, comma, later,
            pure_run, List.map_cons]
  exact ⟨_, fun trees c tokens => rounds (trees.length + 1) trees c (Nat.lt_succ_self _) tokens⟩

section Iterate

variable {β : Type} {step : β → Parser (Option β)} {b : β} {s : Stream}

theorem iterateFor_stop {n : Nat} (h : step b s = .ok (none, s)) : iterateFor n step b s = .ok (b, s) := by
  cases n with
  | zero => rfl
  | succ n => simp only [iterateFor, bind_run, h, pure_run]

theorem iterate_stop (h : step b s = .ok (none, s)) : iterate step b s = .ok (b, s) := iterateFor_stop h

/-- a loop that stops after one round -/
theorem iterate_once {b' : β} {t : Stream} (first : step b s = .ok (some b', t)) (second : step b' t = .ok (none, t)) :
    iterate step b s = .ok (b', t) := by
  unfold iterate
  simp only [iterateFor, bind_run, first, iterateFor_stop second]

end Iterate

end ProcessBuild.Source
