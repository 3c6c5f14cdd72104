/-
Gathering artifacts. The claims of a generator are the paths of its artifacts under its name; artifacts are fresh when
their paths are claimed once among them and by no generator before.
- `claim_ok_iff`: claims are taken exactly when the artifacts are fresh.
- `gather_ok_iff`, `run_ok_iff`: the outputs of generators are gathered exactly when none of them fails and no path is
  claimed twice; they are then put together in order, unchanged.
-/
import ProcessBuild.Generation.Generator
import ProcessBuild.Proofs.Results

namespace ProcessBuild.Generation

/-! ## Claims -/

/-- no path of the artifacts is claimed yet, or twice among them -/
structure Fresh (owners : List (String × String)) (artifacts : List Artifact) : Prop where
  distinct : (artifacts.map Artifact.path).Nodup
  unclaimed : ∀ a ∈ artifacts, ∀ owner ∈ owners, owner.1 ≠ a.path

/-- the claims of a generator, the last one first -/
def claims (name : String) (artifacts : List Artifact) : List (String × String) :=
  (artifacts.map fun a => (a.path, name)).reverse

theorem mem_claims {name : String} {artifacts : List Artifact} {owner : String × String} :
    owner ∈ claims name artifacts ↔ ∃ a ∈ artifacts, (a.path, name) = owner := by
  rw [claims, List.mem_reverse, List.mem_map]

theorem Fresh.nil (owners : List (String × String)) : Fresh owners [] :=
  ⟨List.nodup_nil, List.forall_mem_nil _⟩

theorem fresh_nil_iff {artifacts : List Artifact} : Fresh [] artifacts ↔ (artifacts.map Artifact.path).Nodup :=
  ⟨Fresh.distinct, fun h => ⟨h, fun _ _ _ h => nomatch h⟩⟩

/-- artifacts are fresh when the front is and the back is after the claims of the front -/
theorem fresh_append_iff {owners : List (String × String)} {front back : List Artifact} (name : String) :
    Fresh owners (front ++ back) ↔ Fresh owners front ∧ Fresh (claims name front ++ owners) back := by
  constructor
  · rintro ⟨distinct, unclaimed⟩
    rw [List.map_append, List.nodup_append] at distinct
    obtain ⟨first, second, apart⟩ := distinct
    refine ⟨⟨first, fun a ha => unclaimed a (List.mem_append_left back ha)⟩, second, fun b hb owner taken => ?_⟩
    rcases List.mem_append.1 taken with new | old
    · obtain ⟨a, ha, rfl⟩ := mem_claims.1 new
      exact apart _ (List.mem_map_of_mem ha) _ (List.mem_map_of_mem hb)
    · exact unclaimed b (List.mem_append_right front hb) owner old
  · rintro ⟨⟨first, unclaimed⟩, second, apart⟩
    refine ⟨?_, fun a ha owner taken => ?_⟩
    · rw [List.map_append, List.nodup_append]
      refine ⟨first, second, fun p hp q hq => ?_⟩
      obtain ⟨a, ha, rfl⟩ := List.mem_map.1 hp
      obtain ⟨b, hb, rfl⟩ := List.mem_map.1 hq
      exact apart b hb (a.path, name) (List.mem_append_left owners (mem_claims.2 ⟨a, ha, rfl⟩))
    · rcases List.mem_append.1 ha with inFront | inBack
      · exact unclaimed a inFront owner taken
      · exact apart a inBack owner (List.mem_append_right _ taken)

theorem fresh_cons_iff {owners : List (String × String)} {a : Artifact} {rest : List Artifact} (name : String) :
    Fresh owners (a :: rest) ↔ owners.find? (·.1 = a.path) = none ∧ Fresh ((a.path, name) :: owners) rest := by
  have single : Fresh owners [a] ↔ owners.find? (·.1 = a.path) = none := by
    rw [List.find?_eq_none]
    constructor
    · exact fun h owner taken same => h.unclaimed a List.mem_cons_self owner taken (of_decide_eq_true same)
    · exact fun h => ⟨List.pairwise_singleton _ _, List.forall_mem_singleton.2 fun owner taken same =>
        h owner taken (decide_eq_true same)⟩
  rw [← single]
  exact @fresh_append_iff owners [a] rest name

/-- **Claims are taken** exactly when the artifacts are fresh. -/
theorem claim_ok_iff {name : String} {owners owners' : List (String × String)} {artifacts : List Artifact} :
    claim name owners artifacts = .ok owners' ↔ Fresh owners artifacts ∧ owners' = claims name artifacts ++ owners := by
  induction artifacts generalizing owners with
  | nil =>
    rw [claim, Except.ok.injEq]
    exact ⟨fun same => ⟨Fresh.nil owners, same.symm⟩, fun h => h.2.symm⟩
  | cons a rest ih =>
    have claimed : claims name (a :: rest) ++ owners = claims name rest ++ (a.path, name) :: owners := by
      rw [claims, claims, List.map_cons, List.reverse_cons, List.append_assoc, List.singleton_append]
    rw [claim, fresh_cons_iff name, claimed]
    cases taken : owners.find? (·.1 = a.path) with
    | none =>
      simp only [true_and]
      exact ih
    | some owner => simp

/-! ## Outputs -/

section OfModel

variable {input : GenerationInput} {id path : String} {f : ProcessModel → Except BuildError String} {m : ProcessModel}

/-- the artifact of a process whose model is known -/
theorem ofModel_eq (found : input.model? id = some m) :
    Generator.ofModel input id path f = (f m).map fun content => [⟨.source, path, content⟩] := by
  rw [Generator.ofModel, found]

theorem ofModel_ok_iff {artifacts : List Artifact} (found : input.model? id = some m) :
    Generator.ofModel input id path f = .ok artifacts ↔
      ∃ content, f m = .ok content ∧ [⟨.source, path, content⟩] = artifacts := by
  rw [ofModel_eq found]
  exact map_eq_ok_iff

end OfModel

/-- artifacts that are claimed stand before those gathered after them -/
theorem gather_cons_of_claimed {name : String} {owners owners' : List (String × String)} {artifacts : List Artifact}
    {rest : List (String × Except BuildError (List Artifact))} (h : claim name owners artifacts = .ok owners') :
    gather owners ((name, .ok artifacts) :: rest) = (gather owners' rest).map (artifacts ++ ·) := by
  have bound : gather owners ((name, .ok artifacts) :: rest) =
      gather owners' rest >>= fun others => .ok (artifacts ++ others) := by
    show (claim name owners artifacts >>= fun owners => gather owners rest >>= fun others => _) = _
    rw [h]
    rfl
  rw [bound]
  cases gather owners' rest with
  | error e => rfl
  | ok others => rfl

/-- artifacts that cannot be claimed end the gathering -/
theorem gather_cons_of_refused {name : String} {owners : List (String × String)} {artifacts : List Artifact}
    {rest : List (String × Except BuildError (List Artifact))} {e : BuildError}
    (h : claim name owners artifacts = .error e) : gather owners ((name, .ok artifacts) :: rest) = .error e := by
  show (claim name owners artifacts >>= fun owners => gather owners rest >>= fun others => _) = _
  rw [h]
  rfl

theorem gather_cons_ok_iff {name : String} {owners : List (String × String)}
    {output : Except BuildError (List Artifact)} {rest : List (String × Except BuildError (List Artifact))}
    {artifacts : List Artifact} :
    gather owners ((name, output) :: rest) = .ok artifacts ↔
      ∃ first others, output = .ok first ∧ Fresh owners first ∧ gather (claims name first ++ owners) rest = .ok others ∧
        artifacts = first ++ others := by
  simp only [gather, bind_eq_ok_iff, claim_ok_iff]
  constructor
  · rintro ⟨first, made, _, ⟨fresh, rfl⟩, others, gathered, whole⟩
    exact ⟨first, others, made, fresh, gathered, (Except.ok.inj whole).symm⟩
  · rintro ⟨first, others, made, fresh, gathered, rfl⟩
    exact ⟨first, made, _, ⟨fresh, rfl⟩, others, gathered, rfl⟩

/-- **Outputs are gathered** exactly when none of them fails and their artifacts are fresh. -/
theorem gather_ok_iff {owners : List (String × String)} {outputs : List (String × Except BuildError (List Artifact))}
    {artifacts : List Artifact} :
    gather owners outputs = .ok artifacts ↔
      ∃ parts : List (List Artifact), outputs.map Prod.snd = parts.map .ok ∧ artifacts = parts.flatten ∧
        Fresh owners artifacts := by
  induction outputs generalizing owners artifacts with
  | nil =>
    rw [gather, Except.ok.injEq]
    constructor
    · rintro rfl
      exact ⟨[], rfl, rfl, Fresh.nil owners⟩
    · rintro ⟨parts, same, rfl, -⟩
      rw [List.map_eq_nil_iff.1 same.symm]
      rfl
  | cons o rest ih =>
    obtain ⟨name, output⟩ := o
    rw [gather_cons_ok_iff]
    constructor
    · rintro ⟨first, others, rfl, fresh, gathered, rfl⟩
      obtain ⟨parts, same, rfl, freshOthers⟩ := ih.1 gathered
      refine ⟨first :: parts, ?_, rfl, (fresh_append_iff name).2 ⟨fresh, freshOthers⟩⟩
      rw [List.map_cons, List.map_cons, same]
    · rintro ⟨parts, same, rfl, fresh⟩
      obtain ⟨first, others, rfl, head, tail⟩ := List.map_eq_cons_iff.1 same.symm
      obtain ⟨freshFirst, freshOthers⟩ := (fresh_append_iff name).1 fresh
      exact ⟨first, others.flatten, head.symm, freshFirst, ih.2 ⟨others, tail.symm, rfl, freshOthers⟩, rfl⟩

/-- **Generators succeed** exactly when none of them fails and no path is claimed twice. -/
theorem run_ok_iff {generators : List Generator} {input : GenerationInput} {artifacts : List Artifact} :
    run generators input = .ok artifacts ↔
      ∃ parts : List (List Artifact), generators.map (·.output input) = parts.map .ok ∧ artifacts = parts.flatten ∧
        (artifacts.map Artifact.path).Nodup := by
  have outputs : (generators.map fun g => (g.name, g.output input)).map Prod.snd = generators.map (·.output input) :=
    List.map_map
  rw [← fresh_nil_iff, ← outputs, ← gather_ok_iff, run]
  split
  · rename_i name output found
    have unusable := List.find?_some found
    have failed : ∃ e, output = .error e := by
      cases output with
      | error e => exact ⟨e, rfl⟩
      | ok as => cases unusable
    obtain ⟨e, rfl⟩ := failed
    refine ⟨fun h => (nomatch h), fun gathered => ?_⟩
    obtain ⟨parts, same, -⟩ := gather_ok_iff.1 gathered
    have isOutput := List.mem_map_of_mem (f := Prod.snd) (List.mem_of_find?_eq_some found)
    rw [same] at isOutput
    obtain ⟨part, -, ok⟩ := List.mem_map.1 isOutput
    cases ok
  · exact Iff.rfl

end ProcessBuild.Generation
