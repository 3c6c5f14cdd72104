/-
The gate of REST generation by what it looks at: whether both REST capabilities are present, whether there is one for
planning, and what the switch says. Its rules come in an order, and an environment that gets a capability may pass by
another rule than before; so the environments that pass are told without the order.
- `check_ok_iff`: how a build goes on behind the gate.
- `passes_iff`: the environments that pass.
- `Passes.mono`: an environment still passes when capabilities are added to it.
-/
import ProcessBuild.Environment.RestGate

namespace ProcessBuild

namespace Environment

variable {e : Environment} {capabilities : NameSet}

/-- both REST capabilities are present -/
def HasRest (e : Environment) : Prop := "rest" ∈ e.capabilities ∧ "rest-json" ∈ e.capabilities

/-- there is a capability for planning -/
def Plans (e : Environment) : Prop := ∃ c ∈ e.capabilities, "planner".toList <+: c.toList

/-- REST resources are served: their capabilities are there, and the switch is not off -/
def ServesRest (e : Environment) : Prop := e.HasRest ∧ e.generateRest ≠ some false

/-- REST is switched off without being asked: nothing is said, there is planning, and a REST capability is missing -/
def ForgoesRest (e : Environment) : Prop := e.generateRest = none ∧ e.Plans ∧ ¬e.HasRest

theorem hasRest_iff : e.hasRest = true ↔ e.HasRest := by
  unfold hasRest has HasRest
  rw [Bool.and_eq_true, NameSet.contains_iff, NameSet.contains_iff]
  exact Iff.rfl

theorem plans_iff : e.hasStartingWith Capability.plannerStart = true ↔ e.Plans := by
  unfold hasStartingWith Plans
  simp only [List.any_eq_true, List.isPrefixOf_iff_prefix]
  rfl

theorem HasRest.mono (more : ∀ c ∈ e.capabilities, c ∈ capabilities) (h : e.HasRest) :
    ({ e with capabilities } : Environment).HasRest := ⟨more _ h.1, more _ h.2⟩

theorem Plans.mono (more : ∀ c ∈ e.capabilities, c ∈ capabilities) (h : e.Plans) :
    ({ e with capabilities } : Environment).Plans := by
  obtain ⟨c, present, starts⟩ := h
  exact ⟨c, more c present, starts⟩

end Environment

namespace RestGate

open Environment

variable {e : Environment} {gate : RestGate}

/-- **How a build goes on behind the gate.** REST is switched off where it is forgone; elsewhere the gate lets the switch
decide, if the REST capabilities are there or the switch is off. -/
theorem check_ok_iff : check e = .ok gate ↔
    e.ForgoesRest ∧ gate = .switchedOff plannerWarning ∨
      ¬e.ForgoesRest ∧ (e.HasRest ∨ e.generateRest = some false) ∧ gate = .asConfigured (e.generateRest.getD true) := by
  unfold check ForgoesRest
  rw [← hasRest_iff, ← plans_iff]
  cases e.hasRest with
  | true => simp [@eq_comm RestGate gate]
  | false =>
    cases e.generateRest with
    | none => cases e.hasStartingWith Capability.plannerStart <;> simp [@eq_comm RestGate gate]
    | some wanted => cases wanted <;> simp [@eq_comm RestGate gate]

/-- REST resources are generated behind the gate exactly where they are served -/
theorem generateRest_iff (checked : check e = .ok gate) : gate.generateRest = true ↔ e.ServesRest := by
  rcases check_ok_iff.1 checked with ⟨⟨-, -, missing⟩, rfl⟩ | ⟨-, allowed, rfl⟩
  · exact iff_of_false Bool.false_ne_true fun served => missing served.1
  · unfold generateRest ServesRest
    cases switch : e.generateRest with
    | none =>
      have hasRest := allowed.resolve_right (by simp [switch])
      simpa using hasRest
    | some wanted =>
      cases wanted with
      | true =>
        have hasRest := allowed.resolve_right (by simp [switch])
        simpa using hasRest
      | false => simp

/-- the gate warns exactly where REST is forgone -/
theorem warning_iff (checked : check e = .ok gate) {words : String} :
    gate.warning = some words ↔ e.ForgoesRest ∧ words = plannerWarning := by
  rcases check_ok_iff.1 checked with ⟨forgone, rfl⟩ | ⟨kept, -, rfl⟩
  · simp [warning, forgone, eq_comm]
  · simp [warning, kept]

/-- an environment passes the gate -/
def Passes (e : Environment) : Prop := ∃ gate, check e = .ok gate

/-- **The environments that pass**: REST can be had, is off, or is switched off for planning. -/
theorem passes_iff : Passes e ↔ e.HasRest ∨ e.generateRest = some false ∨ e.generateRest = none ∧ e.Plans := by
  unfold Passes
  simp only [check_ok_iff, exists_or, exists_and_left, exists_eq, and_true]
  unfold ForgoesRest
  by_cases hasRest : e.HasRest
  · simp [hasRest]
  · simp only [hasRest, not_false_eq_true, and_true, false_or]
    by_cases forgone : e.generateRest = none ∧ e.Plans
    · simp [forgone]
    · simp [forgone]

/-- **Capabilities never stand in the way**: an environment that passes still does when some are added to it. -/
theorem Passes.mono {capabilities : NameSet} (more : ∀ c ∈ e.capabilities, c ∈ capabilities) (passes : Passes e) :
    Passes { e with capabilities } := by
  refine passes_iff.2 ?_
  rcases passes_iff.1 passes with hasRest | off | ⟨unsaid, plans⟩
  · exact .inl (hasRest.mono more)
  · exact .inr (.inl off)
  · exact .inr (.inr ⟨unsaid, plans.mono more⟩)

end RestGate
end ProcessBuild
