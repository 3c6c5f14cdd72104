/-
Results of computations that can fail.
- `bind_eq_ok_iff`, `map_eq_ok_iff`, `mapError_eq_ok_iff`: a computation of several steps succeeds when the steps do.
- `mapM_eq_ok_iff`: the results of a list are those of its values, in order.
- `exists_of_mapM_error`, `exists_mapM_ok`: a list fails as one of its values does, and has results when all have.
- `Yields`: every result has a property; it is followed through a computation step by step.
- `bind_ok_iff`, `bind_error_iff`: the same for computations that change a state and keep it when they fail.
- `bind_relates`: what such a computation does to the state is what its steps do.
-/
import Mathlib.Data.List.Forall2

namespace ProcessBuild

/-! ## Steps -/

section Steps

variable {ε ε' α β : Type} {x : Except ε α}

/-- a computation after another succeeds when both do -/
theorem bind_eq_ok_iff {f : α → Except ε β} {b : β} : x >>= f = .ok b ↔ ∃ a, x = .ok a ∧ f a = .ok b := by
  cases x with
  | error e => exact ⟨fun h => (nomatch h), fun ⟨_, h, _⟩ => (nomatch h)⟩
  | ok a =>
    refine ⟨fun h => ⟨a, rfl, h⟩, ?_⟩
    rintro ⟨_, ok, h⟩
    cases ok
    exact h

theorem map_eq_ok_iff {f : α → β} {b : β} : x.map f = .ok b ↔ ∃ a, x = .ok a ∧ f a = b := by
  cases x with
  | error e => exact ⟨fun h => (nomatch h), fun ⟨_, h, _⟩ => (nomatch h)⟩
  | ok a =>
    refine ⟨fun h => ⟨a, rfl, Except.ok.inj h⟩, ?_⟩
    rintro ⟨_, ok, rfl⟩
    cases ok
    rfl

theorem mapError_eq_ok_iff {f : ε → ε'} {a : α} : x.mapError f = .ok a ↔ x = .ok a := by
  cases x with
  | error e => exact ⟨fun h => (nomatch h), fun h => (nomatch h)⟩
  | ok a => exact ⟨fun h => congrArg _ (Except.ok.inj h), fun h => congrArg _ (Except.ok.inj h)⟩

theorem mapError_eq_error_iff {f : ε → ε'} {e : ε'} : x.mapError f = .error e ↔
    ∃ failure, x = .error failure ∧ f failure = e := by
  cases x with
  | error failure =>
    refine ⟨fun h => ⟨failure, rfl, Except.error.inj h⟩, ?_⟩
    rintro ⟨_, failed, rfl⟩
    cases failed
    rfl
  | ok a => exact ⟨fun h => (nomatch h), fun ⟨_, h, _⟩ => (nomatch h)⟩

end Steps

/-! ## What a computation yields -/

/-- every result of a computation has a property -/
def Yields {ε α : Type} (P : α → Prop) (x : Except ε α) : Prop := ∀ a, x = .ok a → P a

namespace Yields

variable {ε α β : Type} {P : α → Prop}

theorem ok {a : α} (h : P a) : Yields P (.ok a : Except ε α) := by
  intro b same
  obtain rfl := Except.ok.inj same
  exact h

theorem error (e : ε) : Yields P (.error e) := fun _ made => nomatch made

theorem bind {x : Except ε β} {g : β → Except ε α} (h : ∀ b, x = .ok b → Yields P (g b)) : Yields P (x >>= g) := by
  intro a made
  obtain ⟨b, first, made⟩ := bind_eq_ok_iff.1 made
  exact h b first a made

end Yields

/-! ## Steps on a state -/

section Stateful

variable {ε σ α β : Type} {x : ExceptT ε (StateM σ) α} {f : α → ExceptT ε (StateM σ) β} {s t : σ}

theorem bind_apply (x : ExceptT ε (StateM σ) α) (f : α → ExceptT ε (StateM σ) β) (s : σ) :
    (x >>= f) s = match x s with
      | (.ok a, t) => f a t
      | (.error e, t) => (.error e, t) := by
  have step : (x >>= f) s = ExceptT.bindCont f (x s).1 (x s).2 := rfl
  rw [step]
  rcases x s with ⟨e | a, t⟩
  · rfl
  · rfl

/-- two steps in a row succeed when the first one does and the second one after it -/
theorem bind_ok_iff {b : β} : (x >>= f) s = (.ok b, t) ↔ ∃ a r, x s = (.ok a, r) ∧ f a r = (.ok b, t) := by
  rw [bind_apply]
  rcases x s with ⟨e | a, r⟩
  · exact ⟨fun h => (nomatch h), fun ⟨_, _, h, _⟩ => (nomatch h)⟩
  · refine ⟨fun h => ⟨a, r, rfl, h⟩, ?_⟩
    rintro ⟨_, _, ok, h⟩
    cases ok
    exact h

/-- two steps in a row fail when the first one does, or the second one after it -/
theorem bind_error_iff {e : ε} : (x >>= f) s = (.error e, t) ↔
    x s = (.error e, t) ∨ ∃ a r, x s = (.ok a, r) ∧ f a r = (.error e, t) := by
  rw [bind_apply]
  rcases x s with ⟨failure | a, r⟩
  · constructor
    · intro h
      cases h
      exact Or.inl rfl
    · rintro (h | ⟨_, _, h, _⟩)
      · cases h
        rfl
      · cases h
  · refine ⟨fun h => Or.inr ⟨a, r, rfl, h⟩, ?_⟩
    rintro (h | ⟨_, _, ok, h⟩)
    · cases h
    · cases ok
      exact h

theorem pure_ok_iff {a b : α} : (pure a : ExceptT ε (StateM σ) α) s = (.ok b, t) ↔ a = b ∧ s = t := by
  show ((.ok a, s) : Except ε α × σ) = _ ↔ _
  rw [Prod.mk.injEq, Except.ok.injEq]

/-- a failure that is caught is handled in the state that it leaves -/
theorem tryCatch_apply (x : ExceptT ε (StateM σ) α) (handle : ε → ExceptT ε (StateM σ) α) (s : σ) :
    tryCatch x handle s = match x s with
      | (.ok a, t) => (.ok a, t)
      | (.error e, t) => handle e t := by
  have step : tryCatch x handle s = (match (x s).1 with
      | .ok a => (pure (.ok a) : StateM σ (Except ε α))
      | .error e => handle e) (x s).2 := rfl
  rw [step]
  rcases x s with ⟨e | a, t⟩
  · rfl
  · rfl

/-- what relates the state before each of two steps to the one after it relates those before and after both -/
theorem bind_relates {R : σ → σ → Prop} (trans : ∀ {r s t}, R r s → R s t → R r t) (h : ∀ s, R s (x s).2)
    (k : ∀ a s, R s (f a s).2) (s : σ) : R s ((x >>= f) s).2 := by
  have first := h s
  rw [bind_apply]
  rcases ran : x s with ⟨e | a, t⟩
  · rwa [ran] at first
  · rw [ran] at first
    exact trans first (k a t)

end Stateful

/-! ## Lists -/

section Related

variable {α β : Type} {R : α → β → Prop} {l : List α} {others : List β}

theorem exists_of_mem_left (related : List.Forall₂ R l others) {a : α} (ha : a ∈ l) : ∃ b ∈ others, R a b := by
  induction related with
  | nil => cases ha
  | cons first _ ih =>
    rcases List.mem_cons.1 ha with rfl | later
    · exact ⟨_, List.mem_cons_self, first⟩
    · obtain ⟨b, isOther, isRelated⟩ := ih later
      exact ⟨b, List.mem_cons_of_mem _ isOther, isRelated⟩

theorem exists_of_mem_right (related : List.Forall₂ R l others) {b : β} (hb : b ∈ others) : ∃ a ∈ l, R a b := by
  have flipped : List.Forall₂ (flip R) others l := List.Forall₂.flip related
  exact exists_of_mem_left flipped hb

end Related

section Lists

variable {ε α β : Type} {f : α → Except ε β} {l : List α}

/-- **The results of a list** are those of its values, in order. -/
theorem mapM_eq_ok_iff {results : List β} : l.mapM f = .ok results ↔ List.Forall₂ (fun a b => f a = .ok b) l results := by
  induction l generalizing results with
  | nil =>
    rw [List.mapM_nil, List.forall₂_nil_left_iff]
    exact ⟨fun h => (Except.ok.inj h).symm, fun h => congrArg _ h.symm⟩
  | cons a rest ih =>
    rw [List.mapM_cons, List.forall₂_cons_left_iff, bind_eq_ok_iff]
    constructor
    · rintro ⟨b, first, whole⟩
      obtain ⟨others, later, whole⟩ := bind_eq_ok_iff.1 whole
      exact ⟨b, others, first, ih.1 later, (Except.ok.inj whole).symm⟩
    · rintro ⟨b, others, first, later, rfl⟩
      exact ⟨b, first, bind_eq_ok_iff.2 ⟨others, ih.2 later, rfl⟩⟩

theorem exists_of_mapM_error {e : ε} (h : l.mapM f = .error e) : ∃ a ∈ l, f a = .error e := by
  induction l with
  | nil => cases h
  | cons a rest ih =>
    rw [List.mapM_cons] at h
    cases first : f a with
    | error failure =>
      rw [first] at h
      obtain rfl : failure = e := Except.error.inj h
      exact ⟨a, List.mem_cons_self, first⟩
    | ok b =>
      rw [first] at h
      cases others : rest.mapM f with
      | error failure =>
        rw [others] at h
        obtain rfl := Except.error.inj h
        obtain ⟨x, isRest, failed⟩ := ih others
        exact ⟨x, List.mem_cons_of_mem a isRest, failed⟩
      | ok bs =>
        rw [others] at h
        cases h

theorem exists_mapM_ok (h : ∀ a ∈ l, ∃ b, f a = .ok b) : ∃ results, l.mapM f = .ok results := by
  cases made : l.mapM f with
  | ok results => exact ⟨results, rfl⟩
  | error e =>
    obtain ⟨a, ha, failed⟩ := exists_of_mapM_error made
    obtain ⟨b, ok⟩ := h a ha
    cases failed.symm.trans ok

end Lists

/-- what is read of each element on its own is read of all in order -/
theorem mapM_eq_map {α β γ : Type} {f : β → Option γ} {g : α → β} {k : α → γ} {xs : List α}
    (h : ∀ x ∈ xs, f (g x) = some (k x)) : (xs.map g).mapM f = some (xs.map k) := by
  induction xs with
  | nil => rfl
  | cons x rest ih =>
    rw [List.map_cons, List.mapM_cons, h x List.mem_cons_self, ih fun y hy => h y (List.mem_cons_of_mem x hy)]
    rfl

end ProcessBuild
