/-
Where gathering ends. The artifacts of generators are claimed one by one, generator by generator, up to the first
generator that fails; the walk ends at the first artifact whose path is claimed before, or else at that failure. Neither
what comes after a failure nor what comes after a repeated path counts.
- `gather_eq`: gathering is claiming all artifacts made before the first failure, one by one.
- `claimEach_error_iff`: claiming one by one ends at the first repeated path.
- `gather_exact`: when outputs are gathered, and which failure ends them otherwise.
-/
import Mathlib.Data.List.Nodup
import ProcessBuild.Proofs.Generation.Gathering

namespace ProcessBuild.Generation

/-- the name of a generator with what it makes -/
abbrev Output := String × Except BuildError (List Artifact)

/-- an artifact with the name of its generator -/
abbrev Claim := String × Artifact

def Claim.path (c : Claim) : String := c.2.path

/-! ## Outputs in order -/

/-- the artifacts that generators make before the first of them fails, in order -/
def made : List Output → List Claim
  | [] => []
  | (_, .error _) :: _ => []
  | (name, .ok artifacts) :: rest => artifacts.map (fun a => (name, a)) ++ made rest

/-- the failure of the first generator that fails -/
def failure? : List Output → Option BuildError
  | [] => none
  | (_, .error e) :: _ => some e
  | (_, .ok _) :: rest => failure? rest

/-- what outputs come to when no path is claimed twice: the first failure, or else all artifacts in order -/
def finished (outputs : List Output) : Except BuildError (List Artifact) :=
  match failure? outputs with
  | some e => .error e
  | none => .ok ((made outputs).map Prod.snd)

/-- the first claim of a path that is claimed before, and the claim before it; until then no path is claimed twice -/
def FirstRepeat (claims : List Claim) (first again : Claim) : Prop :=
  ∃ before after, claims = before ++ again :: after ∧ (before.map Claim.path).Nodup ∧ first ∈ before ∧
    first.path = again.path

/-! ## Claims one by one -/

/-- claims as the paths with the names of their generators, the last one first -/
def ownersOf (claims : List Claim) : List (String × String) := (claims.map fun c => (c.path, c.1)).reverse

/-- claim the paths of artifacts one by one -/
def claimEach : List (String × String) → List Claim → Except BuildError (List (String × String))
  | owners, [] => .ok owners
  | owners, c :: rest =>
    match owners.find? (·.1 = c.path) with
    | some owner => .error (.collision c.path owner.2 c.1)
    | none => claimEach ((c.path, c.1) :: owners) rest

theorem claim_eq (name : String) (owners : List (String × String)) (artifacts : List Artifact) :
    claim name owners artifacts = claimEach owners (artifacts.map fun a => (name, a)) := by
  induction artifacts generalizing owners with
  | nil => rfl
  | cons a rest ih =>
    rw [claim, List.map_cons, claimEach]
    split
    · rename_i owner found
      rw [show owners.find? (·.1 = Claim.path (name, a)) = some owner from found]
      rfl
    · rename_i free
      rw [show owners.find? (·.1 = Claim.path (name, a)) = none from free]
      exact ih _

theorem claimEach_append (owners : List (String × String)) (claims others : List Claim) :
    claimEach owners (claims ++ others) = claimEach owners claims >>= fun owners => claimEach owners others := by
  induction claims generalizing owners with
  | nil => rfl
  | cons c claims ih =>
    rw [List.cons_append, claimEach, claimEach]
    split
    · rfl
    · exact ih _

theorem finished_cons (name : String) (artifacts : List Artifact) (rest : List Output) :
    finished ((name, .ok artifacts) :: rest) = (finished rest).map (artifacts ++ ·) := by
  unfold finished
  rw [failure?, made]
  cases failure? rest with
  | some e => rfl
  | none => simp [Except.map, Function.comp_def]

/-- **Gathering** is claiming all artifacts that are made before the first failure, one by one, and then that
failure. -/
theorem gather_eq (owners : List (String × String)) (outputs : List Output) :
    gather owners outputs = claimEach owners (made outputs) >>= fun _ => finished outputs := by
  induction outputs generalizing owners with
  | nil => rfl
  | cons o rest ih =>
    obtain ⟨name, e | artifacts⟩ := o
    · rfl
    · rw [made, claimEach_append, ← claim_eq, finished_cons]
      cases claimed : claim name owners artifacts with
      | error e => exact gather_cons_of_refused claimed
      | ok owners' =>
        rw [gather_cons_of_claimed claimed, ih]
        show _ = claimEach owners' (made rest) >>= _
        cases claimEach owners' (made rest) with
        | error e => rfl
        | ok _ => rfl

theorem find?_ownersOf_eq_none_iff {taken : List Claim} {path : String} :
    (ownersOf taken).find? (·.1 = path) = none ↔ path ∉ taken.map Claim.path := by
  rw [List.find?_eq_none, List.mem_map, ownersOf]
  constructor
  · rintro free ⟨c, isTaken, same⟩
    exact free (c.path, c.1) (List.mem_reverse.2 (List.mem_map_of_mem isTaken)) (decide_eq_true same)
  · intro free owner isOwner same
    obtain ⟨c, isTaken, rfl⟩ := List.mem_map.1 (List.mem_reverse.1 isOwner)
    exact free ⟨c, isTaken, of_decide_eq_true same⟩

theorem exists_claim_of_owner {taken : List Claim} {path : String} {owner : String × String}
    (found : (ownersOf taken).find? (·.1 = path) = some owner) :
    ∃ c ∈ taken, c.path = path ∧ owner = (c.path, c.1) := by
  have isPath := List.find?_some found
  obtain ⟨c, isTaken, rfl⟩ := List.mem_map.1 (List.mem_reverse.1 (List.mem_of_find?_eq_some found))
  exact ⟨c, isTaken, of_decide_eq_true isPath, rfl⟩

/-- the owner of a path that is claimed once is the generator that claims it -/
theorem find?_ownersOf {taken : List Claim} {c : Claim} (distinct : (taken.map Claim.path).Nodup)
    (isTaken : c ∈ taken) : (ownersOf taken).find? (·.1 = c.path) = some (c.path, c.1) := by
  cases found : (ownersOf taken).find? (·.1 = c.path) with
  | none => exact absurd (List.mem_map_of_mem isTaken) (find?_ownersOf_eq_none_iff.1 found)
  | some owner =>
    obtain ⟨other, isOther, same, rfl⟩ := exists_claim_of_owner found
    rw [List.inj_on_of_nodup_map distinct isOther isTaken same]

theorem ownersOf_concat (taken : List Claim) (c : Claim) :
    ownersOf (taken ++ [c]) = (c.path, c.1) :: ownersOf taken := by
  simp [ownersOf]

theorem claimEach_of_distinct {taken claims : List Claim} (distinct : ((taken ++ claims).map Claim.path).Nodup) :
    claimEach (ownersOf taken) claims = .ok (ownersOf (taken ++ claims)) := by
  induction claims generalizing taken with
  | nil => rw [claimEach, List.append_nil]
  | cons c claims ih =>
    rw [List.append_cons] at distinct ⊢
    have free : (ownersOf taken).find? (·.1 = c.path) = none := by
      rw [find?_ownersOf_eq_none_iff]
      rw [List.map_append, List.map_append, List.append_assoc] at distinct
      exact fun isTaken => List.disjoint_of_nodup_append distinct isTaken List.mem_cons_self
    rw [claimEach, free]
    show claimEach ((c.path, c.1) :: ownersOf taken) claims = _
    rw [← ownersOf_concat, ih distinct]

/-- a claim of a path that is not claimed yet keeps the paths distinct -/
theorem distinct_concat {taken : List Claim} {c : Claim} (distinct : (taken.map Claim.path).Nodup)
    (free : (ownersOf taken).find? (·.1 = c.path) = none) : ((taken ++ [c]).map Claim.path).Nodup := by
  rw [List.map_append, List.map_singleton]
  exact distinct.append (List.nodup_singleton _)
    (List.disjoint_singleton.2 (find?_ownersOf_eq_none_iff.1 free))

theorem distinct_of_ok {taken claims : List Claim} {owners : List (String × String)}
    (distinct : (taken.map Claim.path).Nodup) (claimed : claimEach (ownersOf taken) claims = .ok owners) :
    ((taken ++ claims).map Claim.path).Nodup := by
  induction claims generalizing taken with
  | nil => rwa [List.append_nil]
  | cons c claims ih =>
    rw [claimEach] at claimed
    split at claimed
    · cases claimed
    · rename_i free
      rw [← ownersOf_concat] at claimed
      rw [List.append_cons]
      exact ih (distinct_concat distinct free) claimed

theorem firstRepeat_of_error {taken claims : List Claim} {e : BuildError} (distinct : (taken.map Claim.path).Nodup)
    (refused : claimEach (ownersOf taken) claims = .error e) :
    ∃ first again, FirstRepeat (taken ++ claims) first again ∧ e = .collision again.path first.1 again.1 := by
  induction claims generalizing taken with
  | nil => cases refused
  | cons c claims ih =>
    rw [claimEach] at refused
    split at refused
    · rename_i owner found
      obtain rfl := Except.error.inj refused
      obtain ⟨first, isTaken, same, rfl⟩ := exists_claim_of_owner found
      exact ⟨first, c, ⟨taken, claims, rfl, distinct, isTaken, same⟩, rfl⟩
    · rename_i free
      rw [← ownersOf_concat] at refused
      rw [List.append_cons]
      exact ih (distinct_concat distinct free) refused

/-- **Claiming one by one** ends at the first path that is claimed before. -/
theorem claimEach_error_iff {claims : List Claim} {e : BuildError} : claimEach [] claims = .error e ↔
    ∃ first again, FirstRepeat claims first again ∧ e = .collision again.path first.1 again.1 := by
  constructor
  · exact @firstRepeat_of_error [] claims e List.nodup_nil
  · rintro ⟨first, again, ⟨before, after, rfl, distinct, isBefore, same⟩, rfl⟩
    have taken : claimEach [] before = .ok (ownersOf before) := @claimEach_of_distinct [] before distinct
    rw [claimEach_append, taken]
    show claimEach (ownersOf before) (again :: after) = _
    rw [claimEach, ← same, find?_ownersOf distinct isBefore]

theorem claimEach_ok_iff {claims : List Claim} : (∃ owners, claimEach [] claims = .ok owners) ↔
    (claims.map Claim.path).Nodup :=
  ⟨fun ⟨owners, claimed⟩ => @distinct_of_ok [] claims owners List.nodup_nil claimed, fun distinct =>
    ⟨_, @claimEach_of_distinct [] claims distinct⟩⟩

/-! ## The end of gathering -/

theorem finished_error_iff {outputs : List Output} {e : BuildError} :
    finished outputs = .error e ↔ failure? outputs = some e := by
  unfold finished
  cases failure? outputs with
  | some failure => simp
  | none => simp

/-- **Gathering fails** at the first path that is claimed again before any generator fails, or else with the first
failure. -/
theorem gather_error_iff {outputs : List Output} {e : BuildError} : gather [] outputs = .error e ↔
    (∃ first again, FirstRepeat (made outputs) first again ∧ e = .collision again.path first.1 again.1) ∨
      ((made outputs).map Claim.path).Nodup ∧ failure? outputs = some e := by
  rw [gather_eq, ← claimEach_error_iff, ← claimEach_ok_iff, ← finished_error_iff]
  cases claimEach [] (made outputs) with
  | error failure =>
    show Except.error failure = .error e ↔ _
    simp
  | ok owners =>
    show finished outputs = .error e ↔ _
    simp

/-- generators are gathered if none of them comes upon a module name that is no identifier -/
theorem run_eq_gather {generators : List Generator} {input : GenerationInput}
    (usable : ∀ g ∈ generators, isUnusableName (g.name, g.output input) = false) :
    run generators input = gather [] (generators.map fun g => (g.name, g.output input)) := by
  have none : (generators.map fun g => (g.name, g.output input)).find? isUnusableName = none := by
    rw [List.find?_eq_none]
    intro o isOutput
    obtain ⟨g, isGenerator, rfl⟩ := List.mem_map.1 isOutput
    rw [usable g isGenerator]
    exact Bool.false_ne_true
  rw [run]
  simp only [none]

/-- **The barrier is exact**, whatever the generators are called and make. Their outputs are gathered when none of them
fails and no path is claimed twice, within one generator or by two, and then they are put together in order, unchanged.
Otherwise gathering ends at what comes first: the first path that is claimed again, told with the generator that claims
it first and the one that claims it again, or the failure of the first generator that fails. -/
theorem gather_exact (outputs : List Output) :
    (∀ generators input, (generators.map fun g : Generator => (g.name, g.output input)) = outputs →
      (∀ o ∈ outputs, isUnusableName o = false) → run generators input = gather [] outputs) ∧
    (∀ artifacts, gather [] outputs = .ok artifacts ↔
      ∃ parts : List (List Artifact), outputs.map Prod.snd = parts.map .ok ∧ artifacts = parts.flatten ∧
        (artifacts.map Artifact.path).Nodup) ∧
    ∀ e, gather [] outputs = .error e ↔
      (∃ first again, FirstRepeat (made outputs) first again ∧ e = .collision again.path first.1 again.1) ∨
        ((made outputs).map Claim.path).Nodup ∧ failure? outputs = some e := by
  refine ⟨?_, fun artifacts => ?_, fun e => gather_error_iff⟩
  · rintro generators input rfl usable
    exact run_eq_gather fun g isGenerator => usable _ (List.mem_map_of_mem isGenerator)
  · rw [gather_ok_iff]
    simp only [fresh_nil_iff]

def sourceAt (path content : String) : Artifact := ⟨.source, path, content⟩

/-- three generators, two of one name: the second claims a path of its own again before it comes to one of the first,
and another claims more paths again -/
def clashingGenerators : List Generator := [
  .given "files" [sourceAt "a.rs" "first", sourceAt "b.rs" "first"],
  .given "more" [sourceAt "c.rs" "second", sourceAt "c.rs" "third", sourceAt "a.rs" "second"],
  .given "files" [sourceAt "b.rs" "second"]]

theorem clashingGenerators_collide :
    let input : GenerationInput := ⟨[], Translation.Kinds.full, "app", "rt"⟩
    let outputs : List Output := clashingGenerators.map fun g => (g.name, g.output input)
    (∀ o ∈ outputs, isUnusableName o = false) ∧
    run clashingGenerators input = gather [] outputs ∧
    gather [] outputs = .error (.collision "c.rs" "more" "more") ∧
    gather [] (outputs.take 1 ++ ("late", .error (.json "unread")) :: outputs) = .error (.json "unread") := by
  intro input outputs
  have usable : ∀ o ∈ outputs, isUnusableName o = false := by decide +kernel
  refine ⟨usable, (gather_exact outputs).1 clashingGenerators input rfl usable, ?_, ?_⟩
  · refine ((gather_exact outputs).2.2 _).2
      (.inl ⟨("more", sourceAt "c.rs" "second"), ("more", sourceAt "c.rs" "third"), ?_, rfl⟩)
    exact ⟨(made outputs).take 3, (made outputs).drop 4, rfl, by decide +kernel, by decide +kernel, rfl⟩
  · exact ((gather_exact _).2.2 _).2 (.inr ⟨by decide +kernel, rfl⟩)

end ProcessBuild.Generation
