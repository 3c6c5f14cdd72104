/-
Reading source text as tokens, and lists of tokens as the parts between their commas. Commas inside groups separate
nothing, so a part is whatever was written between two commas of the list itself.
- `tokensOf?_text`: printable tokens are read from their text.
- `parts_separated`, `mapM_parts`: separated parts are read back, and so is what each of them stands for.
-/
import ProcessBuild.Proofs.Results
import ProcessBuild.Proofs.Source.TokenText

namespace ProcessBuild.Source

/-- the tokens of a text, if it has any -/
def tokensOf? (source : String) : Option (List Token) :=
  match Lexer.trees source.toList with
  | .ok read => some (Tree.tokens read)
  | .error _ => none

theorem tokensOf?_text {ts : List Token} (h : Printable ts) : tokensOf? (text ts) = some ts := by
  obtain ⟨read, lexed, tokens⟩ := trees_text h
  unfold tokensOf?
  rw [lexed]
  exact congrArg some tokens

def Token.isComma : Token → Bool
  | .punct ',' _ => true
  | _ => false

/-- the parts between the commas of a list of tokens -/
def parts (ts : List Token) : List (List Token) := if ts.isEmpty then [] else ts.splitOnP Token.isComma

/-- a part: some tokens without a comma of their own -/
structure IsPart (ts : List Token) : Prop where
  filled : ts ≠ []
  whole : ∀ t ∈ ts, t.isComma = false

/-- **Separated parts are read back.** -/
theorem parts_separated {chunks : List (List Token)} (h : ∀ ts ∈ chunks, IsPart ts) :
    parts (Token.separated chunks) = chunks := by
  have split : ∀ ts rest, (∀ x ∈ ts :: rest, IsPart x) →
      Token.separated (ts :: rest) ≠ [] ∧ (Token.separated (ts :: rest)).splitOnP Token.isComma = ts :: rest := by
    intro ts rest each
    have first := each ts List.mem_cons_self
    induction rest generalizing ts with
    | nil => exact ⟨first.filled, List.splitOnP_eq_singleton first.whole⟩
    | cons next others ih =>
      have later := fun x hx => each x (List.mem_cons_of_mem ts hx)
      have ending := (ih next later (later next List.mem_cons_self)).2
      refine ⟨List.append_ne_nil_of_left_ne_nil first.filled _, ?_⟩
      rw [Token.separated, List.splitOnP_append_cons _ _ rfl, ending, List.splitOnP_eq_singleton first.whole]
      · rfl
      · exact List.cons_ne_nil _ _
  cases chunks with
  | nil => rfl
  | cons ts rest =>
    obtain ⟨filled, read⟩ := split ts rest h
    unfold parts
    rw [if_neg (by simpa using filled), read]

/-- separated parts are read when each of them is -/
theorem mapM_parts {α β : Type} {f : List Token → Option β} {tokens : α → List Token} {value : α → β} {xs : List α}
    (whole : ∀ x ∈ xs, IsPart (tokens x)) (h : ∀ x ∈ xs, f (tokens x) = some (value x)) :
    (parts (Token.separated (xs.map tokens))).mapM f = some (xs.map value) := by
  rw [parts_separated (List.forall_mem_map.2 whole)]
  exact mapM_eq_map h

end ProcessBuild.Source
