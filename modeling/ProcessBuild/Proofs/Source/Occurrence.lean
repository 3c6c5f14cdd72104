/-
Tokens in a row, in a source text. A row occurs among tokens when they hold it one after the other, or when one of the
groups among them does, at any depth; a source text contains what occurs among the tokens that it is read as. Comments
and the insides of literals are no tokens, so no text of a model is taken for code. To see that a row does not occur it
is enough to look at what stands behind a token (`followersIn`): a row brings its own followers.
- `Occurs.followers`: the tokens that stand behind another in a row do so wherever the row occurs.
- `followersIn_append`: what is put one after the other keeps its followers where nothing stands behind its end.
-/
import Mathlib.Data.List.Infix
import ProcessBuild.Source.Lexer

namespace ProcessBuild.Source

/-! ## Rows -/

/-- a row of tokens among others, at any depth -/
inductive Occurs (row : List Token) : List Token → Prop
  | here {ts : List Token} : row <:+: ts → Occurs row ts
  | inside {d : Delimiter} {inner ts : List Token} : Token.group d inner ∈ ts → Occurs row inner → Occurs row ts

namespace Occurs

variable {row ts us : List Token}

/-- what occurs among some tokens does so among more of them -/
theorem among (h : Occurs row ts) (part : ts <:+: us) : Occurs row us := by
  cases h with
  | here inRow => exact .here (inRow.trans part)
  | inside isGroup inGroup => exact .inside (part.subset isGroup) inGroup

theorem of_mem_flatMap {α : Type} {items : List α} {a : α} (f : α → List Token) (h : Occurs row (f a))
    (isItem : a ∈ items) : Occurs row (items.flatMap f) := by
  apply h.among
  obtain ⟨front, back, rfl⟩ := List.append_of_mem isItem
  rw [List.flatMap_append, List.flatMap_cons]
  exact ⟨front.flatMap f, back.flatMap f, by simp⟩

end Occurs

/-- a source text that is read as tokens among which a row occurs -/
def Contains (source : String) (row : List Token) : Prop :=
  ∃ read, Lexer.trees source.toList = .ok read ∧ Occurs row (Tree.tokens read)

theorem contains_iff {source : String} {row ts : List Token}
    (known : ∃ read, Lexer.trees source.toList = .ok read ∧ Tree.tokens read = ts) : Contains source row ↔ Occurs row ts := by
  obtain ⟨read, lexed, rfl⟩ := known
  constructor
  · rintro ⟨other, again, occurs⟩
    rw [lexed] at again
    cases again
    exact occurs
  · exact fun occurs => ⟨read, lexed, occurs⟩

/-! ## Followers -/

mutual

/-- what stands directly behind a token that satisfies a test, inside a token -/
def Token.followers (p : Token → Bool) : Token → List Token
  | .group _ inner => followersIn p inner
  | _ => []

/-- what stands directly behind a token that satisfies a test, at every depth -/
def followersIn (p : Token → Bool) : List Token → List Token
  | [] => []
  | t :: rest => (if p t then rest.head?.toList else []) ++ t.followers p ++ followersIn p rest

end

section Followers

variable {p : Token → Bool} {row ts us : List Token}

theorem followersIn_append_of_subset (p : Token → Bool) (ts us : List Token) :
    followersIn p ts ⊆ followersIn p (ts ++ us) ∧ followersIn p us ⊆ followersIn p (ts ++ us) := by
  induction ts with
  | nil => exact ⟨List.nil_subset _, List.Subset.refl _⟩
  | cons t ts ih =>
    rw [List.cons_append, followersIn, followersIn]
    refine ⟨?_, fun x later => List.mem_append_right _ (ih.2 later)⟩
    intro x follows
    rcases List.mem_append.1 follows with front | later
    · apply List.mem_append_left
      rcases List.mem_append.1 front with next | inner
      · apply List.mem_append_left
        split at next
        · rename_i holds
          cases ts with
          | nil => cases next
          | cons u ts => simpa [holds] using next
        · cases next
      · exact List.mem_append_right _ inner
    · exact List.mem_append_right _ (ih.1 later)

/-- **What stands behind a token in a row** does so wherever the row occurs. -/
theorem Occurs.followers (p : Token → Bool) (h : Occurs row ts) : followersIn p row ⊆ followersIn p ts := by
  induction h with
  | here inRow =>
    obtain ⟨front, back, rfl⟩ := inRow
    intro x follows
    exact (followersIn_append_of_subset p _ _).1 ((followersIn_append_of_subset p _ _).2 follows)
  | inside isGroup _ ih =>
    obtain ⟨front, back, rfl⟩ := List.append_of_mem isGroup
    intro x follows
    apply (followersIn_append_of_subset p _ _).2
    rw [followersIn, Token.followers]
    exact List.mem_append_left _ (List.mem_append_right _ (ih follows))

/-- tokens that do not end with one that satisfies the test keep their followers, and so do those behind them -/
theorem followersIn_append (ends : ∀ t ∈ ts.getLast?, p t = false) :
    followersIn p (ts ++ us) = followersIn p ts ++ followersIn p us := by
  induction ts with
  | nil => rfl
  | cons t ts ih =>
    cases ts with
    | nil =>
      have last : p t = false := ends t rfl
      simp [followersIn, last]
    | cons u ts =>
      rw [List.cons_append, followersIn, followersIn, ih (by simpa using ends)]
      simp

/-- where no token satisfies the test, at any depth, nothing stands behind one that does -/
theorem followersIn_eq_nil (none : ∀ t ∈ ts, p t = false ∧ t.followers p = []) : followersIn p ts = [] := by
  induction ts with
  | nil => rfl
  | cons t ts ih =>
    obtain ⟨⟨other, inner⟩, rest⟩ := List.forall_mem_cons.1 none
    simp [followersIn, other, inner, ih rest]

/-- lists of tokens that do not end with one that satisfies the test do not do so together -/
theorem ends_flatMap {α : Type} {f : α → List Token} {items : List α}
    (ends : ∀ a ∈ items, ∀ t ∈ (f a).getLast?, p t = false) : ∀ t ∈ (items.flatMap f).getLast?, p t = false := by
  induction items with
  | nil =>
    intro t isLast
    cases isLast
  | cons a items ih =>
    obtain ⟨first, others⟩ := List.forall_mem_cons.1 ends
    intro t isLast
    rw [List.flatMap_cons, List.getLast?_append, Option.mem_def, Option.or_eq_some_iff] at isLast
    rcases isLast with later | ⟨-, own⟩
    · exact ih others t later
    · exact first t own

theorem followersIn_flatMap {α : Type} {f : α → List Token} {items : List α}
    (ends : ∀ a ∈ items, ∀ t ∈ (f a).getLast?, p t = false) :
    followersIn p (items.flatMap f) = items.flatMap fun a => followersIn p (f a) := by
  induction items with
  | nil => rfl
  | cons a items ih =>
    obtain ⟨first, others⟩ := List.forall_mem_cons.1 ends
    rw [List.flatMap_cons, List.flatMap_cons, followersIn_append first, ih others]

end Followers

end ProcessBuild.Source
