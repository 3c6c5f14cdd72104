/-
The names that builders are bound to. The name of a builder tells how deep its node stands: it ends in one underscore
and number for each sub-process around the node and one for the node itself. A builder's name is therefore never that
of a builder around it, nor that of the factory.
- `toList_builderName`: what the name of a builder is spelled like.
- `level_builderName`: the depth of a node, read off the name of its builder.
- `builderName_inj`, `uniqueId_inj`: the names of two builders are equal only for one kind, one path and one number.
-/
import ProcessBuild.Proofs.Source.Naming
import ProcessBuild.Proofs.Translation.Outcome

namespace ProcessBuild.Translation

open Source Text

def idDigits (id : NodeId) : List Char := (toString id).toList

theorem isDigit_idDigits {id : NodeId} {c : Char} (h : c ∈ idDigits id) : isDigit c = true :=
  isDigit_of_mem_toString (n := id.toNat) h

theorem toList_toString (id : NodeId) : (toString id).toList = Nat.toDigits 10 id.toNat := by
  have decimal : toString id = toString id.toNat := rfl
  rw [decimal, Nat.toString_eq_ofList_toDigits, String.toList_ofList]

theorem idDigits_inj {a b : NodeId} (h : idDigits a = idDigits b) : a = b := by
  unfold idDigits at h
  rw [toList_toString, toList_toString] at h
  have value : a.toNat = b.toNat := by
    rw [← @Nat.ofDigitChars_ten_toDigits a.toNat, h, Nat.ofDigitChars_ten_toDigits]
  exact UInt64.toNat_inj.1 value

/-- the numbers of nodes, each after a mark -/
def marked (mark : Char) (ids : List NodeId) : List Char := ids.flatMap fun i => mark :: idDigits i

/-- numbers with marks between them are the first one and the others after their marks -/
theorem intercalate_marked (mark : Char) (first : List Char) (ids : List NodeId) :
    List.intercalate [mark] (first :: ids.map idDigits) = first ++ marked mark ids := by
  induction ids generalizing first with
  | nil => simp [List.intercalate, marked]
  | cons i ids ih =>
    rw [List.map_cons, List.intercalate_cons_cons, ih, marked, marked, List.flatMap_cons]
    simp

/-- **Numbers after marks** can be told from each other: a mark that is no digit ends the number before it. -/
theorem marked_inj {mark : Char} (noDigit : isDigit mark = false) {ids others : List NodeId}
    (h : marked mark ids = marked mark others) : ids = others := by
  have number : ∀ (i : NodeId) (rest : List NodeId), (idDigits i ++ marked mark rest).takeWhile isDigit = idDigits i := by
    intro i rest
    have stops : (marked mark rest).takeWhile isDigit = [] := by
      cases rest with
      | nil => rfl
      | cons j rest => simp [marked, noDigit]
    rw [List.takeWhile_append_of_pos fun c hc => isDigit_idDigits hc, stops, List.append_nil]
  induction ids generalizing others with
  | nil =>
    cases others with
    | nil => rfl
    | cons j others => cases h
  | cons i ids ih =>
    cases others with
    | nil => cases h
    | cons j others =>
      have tails : idDigits i ++ marked mark ids = idDigits j ++ marked mark others := (List.cons.inj h).2
      have same : idDigits i = idDigits j := by rw [← number i ids, tails, number]
      rw [same] at tails
      rw [idDigits_inj same, ih (List.append_cancel_left tails)]

/-- the numbers on the way to a node, each after an underscore -/
def trail (path : List NodeId) (id : NodeId) : List Char := (path ++ [id]).flatMap fun i => '_' :: idDigits i

theorem mem_trail {path : List NodeId} {id : NodeId} {c : Char} (h : c ∈ trail path id) :
    isDigit c = true ∨ c = '_' := by
  obtain ⟨i, -, hc⟩ := List.mem_flatMap.1 h
  rcases List.mem_cons.1 hc with rfl | digit
  · exact Or.inr rfl
  · exact Or.inl (isDigit_idDigits digit)

theorem count_trail (path : List NodeId) (id : NodeId) : (trail path id).count '_' = path.length + 1 := by
  have one : ∀ i : NodeId, ('_' :: idDigits i).count '_' = 1 := by
    intro i
    rw [List.count_cons_self, List.count_eq_zero_of_not_mem]
    intro digit
    exact absurd (isDigit_idDigits digit) (by decide)
  have all : ∀ ids : List NodeId, (ids.flatMap fun i => '_' :: idDigits i).count '_' = ids.length := by
    intro ids
    induction ids with
    | nil => rfl
    | cons i ids ih => rw [List.flatMap_cons, List.count_append, one, ih, List.length_cons, Nat.add_comm]
  unfold trail
  rw [all, List.length_append, List.length_singleton]

/-- the characters of a builder method: name characters, with a letter in front and at the end -/
theorem builderMethod_chars (kind : NodeKind) :
    (∀ c ∈ kind.builderMethod.toList, isNameChar c = true) ∧
      (∃ c rest, kind.builderMethod.toList = c :: rest ∧ isDigit c = false) ∧
      ∃ rest, kind.builderMethod.toList = rest ++ ['n', 'o', 'd', 'e'] := by
  cases kind with
  | start => exact ⟨forall_chars (by decide), ⟨_, _, rfl, by decide⟩, ['s', 't', 'a', 'r', 't', '_'], rfl⟩
  | finish => exact ⟨forall_chars (by decide), ⟨_, _, rfl, by decide⟩, ['e', 'n', 'd', '_'], rfl⟩
  | action => exact ⟨forall_chars (by decide), ⟨_, _, rfl, by decide⟩, ['a', 'c', 't', 'i', 'o', 'n', '_'], rfl⟩
  | workItem => exact ⟨forall_chars (by decide), ⟨_, _, rfl, by decide⟩,
      ['w', 'o', 'r', 'k', '_', 'i', 't', 'e', 'm', '_'], rfl⟩
  | humanTask =>
    exact ⟨forall_chars (by decide), ⟨_, _, rfl, by decide⟩, ['h', 'u', 'm', 'a', 'n', '_', 't', 'a', 's', 'k', '_'], rfl⟩
  | split => exact ⟨forall_chars (by decide), ⟨_, _, rfl, by decide⟩, ['s', 'p', 'l', 'i', 't', '_'], rfl⟩
  | join => exact ⟨forall_chars (by decide), ⟨_, _, rfl, by decide⟩, ['j', 'o', 'i', 'n', '_'], rfl⟩
  | event => exact ⟨forall_chars (by decide), ⟨_, _, rfl, by decide⟩, ['e', 'v', 'e', 'n', 't', '_'], rfl⟩
  | timer => exact ⟨forall_chars (by decide), ⟨_, _, rfl, by decide⟩, ['t', 'i', 'm', 'e', 'r', '_'], rfl⟩
  | boundaryEvent =>
    exact ⟨forall_chars (by decide), ⟨_, _, rfl, by decide⟩,
      ['b', 'o', 'u', 'n', 'd', 'a', 'r', 'y', '_', 'e', 'v', 'e', 'n', 't', '_'], rfl⟩
  | subProcess =>
    exact ⟨forall_chars (by decide), ⟨_, _, rfl, by decide⟩,
      ['s', 'u', 'b', '_', 'p', 'r', 'o', 'c', 'e', 's', 's', '_'], rfl⟩

theorem toList_intercalate_trail (method : String) (path : List NodeId) (id : NodeId) :
    (String.intercalate "_" (method :: (path ++ [id]).map toString)).toList = method.toList ++ trail path id := by
  rw [String.toList_intercalate, List.map_cons, List.map_map]
  exact intercalate_marked '_' _ _

/-- **The name of a builder** is its method with the numbers on the way to its node. -/
theorem toList_builderName (path : List NodeId) (kind : NodeKind) (id : NodeId) :
    (builderName path kind id).toList = kind.builderMethod.toList ++ trail path id := by
  obtain ⟨chars, ⟨c, rest, front, digit⟩, -⟩ := builderMethod_chars kind
  have name : IsName (kind.builderMethod.toList ++ trail path id) := by
    refine ⟨fun x hx => ?_, c, rest ++ trail path id, by rw [front, List.cons_append], digit⟩
    rcases List.mem_append.1 hx with method | number
    · exact chars x method
    · rcases mem_trail number with digit | rfl
      · exact isAlnum_nameChar (by unfold isAlnum; rw [digit, Bool.or_true])
      · decide
  unfold builderName identifierOf
  rw [toList_intercalate_trail, identifierChars_eq_self name, String.toList_ofList]

/-! ## Levels -/

/-- the number of underscores in the digits and underscores that a name ends in -/
def level (name : String) : Nat := (name.toList.reverse.takeWhile fun c => isDigit c || c == '_').count '_'

/-- the digits and underscores that the name of a builder ends in are its numbers -/
theorem ending_builderName (path : List NodeId) (kind : NodeKind) (id : NodeId) :
    (builderName path kind id).toList.reverse.takeWhile (fun c => isDigit c || c == '_') = (trail path id).reverse := by
  obtain ⟨-, -, rest, ending⟩ := builderMethod_chars kind
  have numbers : ∀ c ∈ (trail path id).reverse, (isDigit c || c == '_') = true := by
    intro c hc
    rcases mem_trail (List.mem_reverse.1 hc) with digit | rfl
    · rw [digit, Bool.true_or]
    · rfl
  have letters : (kind.builderMethod.toList.reverse).takeWhile (fun c => isDigit c || c == '_') = [] := by
    rw [ending, List.reverse_append]
    rfl
  rw [toList_builderName, List.reverse_append, List.takeWhile_append_of_pos numbers, letters, List.append_nil]

/-- **A builder's name tells how many sub-processes are around its node.** -/
theorem level_builderName (path : List NodeId) (kind : NodeKind) (id : NodeId) :
    level (builderName path kind id) = path.length + 1 := by
  unfold level
  rw [ending_builderName, List.count_reverse, count_trail]

theorem level_factory : level "factory" = 0 := by decide

/-! ## Distinct names -/

theorem builderMethod_inj {kind other : NodeKind} (h : kind.builderMethod = other.builderMethod) : kind = other := by
  revert h
  cases kind <;> cases other <;> decide

/-- **The name of a builder** tells the kind of its node, the sub-processes around it and its number. -/
theorem builderName_inj {path others : List NodeId} {kind other : NodeKind} {id number : NodeId}
    (h : builderName path kind id = builderName others other number) : kind = other ∧ path = others ∧ id = number := by
  have trails : trail path id = trail others number := by
    have reversed := ending_builderName path kind id
    rw [h, ending_builderName] at reversed
    exact (List.reverse_inj.1 reversed).symm
  have methods : kind.builderMethod = other.builderMethod := by
    have chars := toList_builderName path kind id
    rw [h, toList_builderName, trails] at chars
    exact (String.toList_inj.1 (List.append_cancel_right chars)).symm
  have numbers : path ++ [id] = others ++ [number] := @marked_inj '_' rfl _ _ trails
  obtain ⟨around, own⟩ := List.append_inj' numbers rfl
  exact ⟨builderMethod_inj methods, around, (List.cons.inj own).1⟩

theorem toList_uniqueId (c : Context) (id : NodeId) : ':' :: (c.uniqueId id).toList = marked ':' (c.containers ++ [id]) := by
  unfold Context.uniqueId
  rw [String.toList_intercalate, List.map_map]
  cases c.containers with
  | nil => exact congrArg (List.cons ':') (intercalate_marked ':' (idDigits id) [])
  | cons first rest => exact congrArg (List.cons ':') (intercalate_marked ':' (idDigits first) (rest ++ [id]))

/-- **The number of a node with those around it** tells its own number and the sub-processes around it. -/
theorem uniqueId_inj {c d : Context} {id number : NodeId} (h : c.uniqueId id = d.uniqueId number) :
    c.containers = d.containers ∧ id = number := by
  have numbers : c.containers ++ [id] = d.containers ++ [number] := by
    apply @marked_inj ':' rfl
    rw [← toList_uniqueId, ← toList_uniqueId, h]
  obtain ⟨around, own⟩ := List.append_inj' numbers rfl
  exact ⟨around, (List.cons.inj own).1⟩

end ProcessBuild.Translation
