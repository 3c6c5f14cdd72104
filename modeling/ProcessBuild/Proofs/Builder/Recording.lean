/-
A factory that records what generated builder code does with it. Every builder keeps the calls made on it and the
builders opened on it, in order. A name stands for the builder that it was bound to last; a statement on a name that
stands for no builder stops the recording.

A builder is found by its place: the positions of the builders on the way down to it. `Focus place hole` says that the
entries around a place are those of `hole`, whatever stands at the place itself.
- `record_call`, `record_bind`: what one statement on a builder in focus records.
- `record_calls`: calls on one builder are recorded on it in order and change nothing else.
-/
import ProcessBuild.Builder.Statement

namespace ProcessBuild.Builder

inductive Entry where
  /-- a call of a method -/
  | call (method : String) (arguments : List Argument)
  /-- a builder that a method opened for a node, with what is recorded on it -/
  | builder (method : String) (id : NodeId) (entries : List Entry)

/-! ## Places -/

/-- what is recorded at a place -/
def entriesAt : List Nat → List Entry → Option (List Entry)
  | [], entries => some entries
  | i :: place, entries =>
    match entries[i]? with
    | some (.builder _ _ inner) => entriesAt place inner
    | _ => none

def Entry.mapInside (f : List Entry → List Entry) : Entry → Entry
  | .builder method id inner => .builder method id (f inner)
  | .call method arguments => .call method arguments

/-- change what is recorded at a place -/
def modifyAt (f : List Entry → List Entry) : List Nat → List Entry → List Entry
  | [], entries => f entries
  | i :: place, entries => entries.modify i (Entry.mapInside (modifyAt f place))

/-! ## Recording -/

/-- the entries of the factory so far, and the places of the builders that names stand for -/
structure Recording where
  entries : List Entry
  bound : String → Option (List Nat)

namespace Recording

/-- the recording that starts with a name for the factory and nothing recorded on it -/
def start (factory : String) : Recording := ⟨[], fun name => if name = factory then some [] else none⟩

theorem start_bound (factory : String) : (start factory).bound factory = some [] := by simp [start]

/-- put an entry after those of the builder that a name stands for: the place of the builder, the number of the entries
before, and the recording after -/
def append (s : Recording) (target : String) (entry : Entry) : Option (List Nat × Nat × Recording) := do
  let place ← s.bound target
  let before ← entriesAt place s.entries
  return (place, before.length, { s with entries := modifyAt (· ++ [entry]) place s.entries })

/-- let a name stand for the builder at a place -/
def bindName (s : Recording) (name : String) (place : List Nat) : Recording :=
  { s with bound := fun other => if other = name then some place else s.bound other }

/-- what a statement does -/
def step (s : Recording) : Statement → Option Recording
  | .call target method arguments => do
    let (_, _, s) ← s.append target (.call method arguments)
    return s
  | .bind name target method id => do
    let (place, position, s) ← s.append target (.builder method id [])
    return s.bindName name (place ++ [position])

end Recording

/-- what the statements of a list do -/
def record (statements : List Statement) (s : Recording) : Option Recording := statements.foldlM Recording.step s

theorem record_append (xs ys : List Statement) (s : Recording) :
    record (xs ++ ys) s = (record xs s).bind (record ys) := List.foldlM_append

theorem record_cons (x : Statement) (xs : List Statement) (s : Recording) :
    record (x :: xs) s = (s.step x).bind (record xs) := List.foldlM_cons

/-! ## Focus -/

/-- the entries are those of `hole` around what is recorded at the place -/
structure Focus (place : List Nat) (hole : List Entry → List Entry) : Prop where
  found : ∀ inner, entriesAt place (hole inner) = some inner
  changed : ∀ f inner, modifyAt f place (hole inner) = hole (f inner)

theorem Focus.root : Focus [] id := ⟨fun _ => rfl, fun _ _ => rfl⟩

theorem entriesAt_append (place rest : List Nat) (entries : List Entry) :
    entriesAt (place ++ rest) entries = (entriesAt place entries).bind (entriesAt rest) := by
  induction place generalizing entries with
  | nil => rfl
  | cons i place ih =>
    rw [List.cons_append, entriesAt, entriesAt]
    split
    · exact ih _
    · rfl

theorem modifyAt_append (f : List Entry → List Entry) (place rest : List Nat) (entries : List Entry) :
    modifyAt f (place ++ rest) entries = modifyAt (modifyAt f rest) place entries := by
  induction place generalizing entries with
  | nil => rfl
  | cons i place ih =>
    have same : modifyAt f (place ++ rest) = modifyAt (modifyAt f rest) place := funext ih
    rw [List.cons_append, modifyAt, modifyAt, same]

theorem modifyAt_last (f : List Entry → List Entry) (before inner : List Entry) (method : String) (id : NodeId) :
    modifyAt f [before.length] (before ++ [.builder method id inner]) = before ++ [.builder method id (f inner)] := by
  induction before with
  | nil => rfl
  | cons e before ih => exact congrArg (List.cons e) ih

theorem Focus.last {place : List Nat} {hole : List Entry → List Entry} (focus : Focus place hole)
    (before : List Entry) (method : String) (id : NodeId) :
    Focus (place ++ [before.length]) fun inner => hole (before ++ [.builder method id inner]) := by
  refine ⟨fun inner => ?_, fun f inner => ?_⟩
  · rw [entriesAt_append, focus.found, Option.bind_some]
    simp [entriesAt]
  · rw [modifyAt_append, focus.changed, modifyAt_last]

section Steps

variable {place : List Nat} {hole : List Entry → List Entry} {before : List Entry}
  {bound : String → Option (List Nat)} {target : String}

theorem append_focus (focus : Focus place hole) (standsFor : bound target = some place) (entry : Entry) :
    Recording.append ⟨hole before, bound⟩ target entry =
      some (place, before.length, ⟨hole (before ++ [entry]), bound⟩) := by
  unfold Recording.append
  simp only [standsFor, focus.found, focus.changed, Option.bind_eq_bind, Option.bind_some]
  rfl

theorem record_call (focus : Focus place hole) (standsFor : bound target = some place) (method : String)
    (arguments : List Argument) :
    Recording.step ⟨hole before, bound⟩ (.call target method arguments) =
      some ⟨hole (before ++ [.call method arguments]), bound⟩ := by
  rw [Recording.step, append_focus focus standsFor]
  rfl

theorem record_bind (focus : Focus place hole) (standsFor : bound target = some place) (name method : String)
    (id : NodeId) :
    Recording.step ⟨hole before, bound⟩ (.bind name target method id) =
      some (Recording.bindName ⟨hole (before ++ [.builder method id []]), bound⟩ name (place ++ [before.length])) := by
  rw [Recording.step, append_focus focus standsFor]
  rfl

end Steps

/-! ## Calls on one builder -/

/-- the entry of a call; a statement that opens a builder stands for the empty one -/
def Statement.entry : Statement → Entry
  | .call _ method arguments => .call method arguments
  | .bind _ _ method id => .builder method id []

def Statement.isCallOn (target : String) : Statement → Bool
  | .call t _ _ => t = target
  | .bind .. => false

theorem Statement.exists_call {target : String} {x : Statement} (h : x.isCallOn target = true) :
    ∃ method arguments, x = .call target method arguments := by
  cases x with
  | bind name t method id => cases h
  | call t method arguments =>
    obtain rfl : t = target := of_decide_eq_true h
    exact ⟨method, arguments, rfl⟩

theorem record_calls {place : List Nat} {hole : List Entry → List Entry} {bound : String → Option (List Nat)}
    {target : String} (focus : Focus place hole) (standsFor : bound target = some place) (calls : List Statement)
    (on : ∀ x ∈ calls, x.isCallOn target = true) (before : List Entry) :
    record calls ⟨hole before, bound⟩ = some ⟨hole (before ++ calls.map Statement.entry), bound⟩ := by
  induction calls generalizing before with
  | nil => simp [record]
  | cons x rest ih =>
    obtain ⟨method, arguments, rfl⟩ := Statement.exists_call (on x List.mem_cons_self)
    rw [record_cons, record_call focus standsFor, Option.bind_some, ih fun y hy => on y (List.mem_cons_of_mem _ hy)]
    simp [Statement.entry]

end ProcessBuild.Builder
