/-
Text that is written is read back. A value without numbers, written with its indentation, is read as the value with the
members of its objects in key order; the reader stops where the text of the value does, whatever comes after it.
- `reads_string`: a string, character by character.
- `reads_value`: a value of any depth that the reader goes to, one arm for each form.
- `parse_pretty`: a whole text.
-/
import Mathlib.Tactic.SplitIfs
import ProcessBuild.Json.Reader
import ProcessBuild.Json.Writer
import ProcessBuild.Proofs.Json.MemberOrder

namespace ProcessBuild.Json

open Reader

/-- the characters are read as a result, whatever comes after them and wherever they stand -/
def Reads {α : Type} (read : Cursor → Outcome (α × Cursor)) (chars : List Char) (a : α) : Prop :=
  ∀ (rest : List Char) (place : TextPlace), ∃ place', read ⟨chars ++ rest, place⟩ = .ok (a, ⟨rest, place'⟩)

/-! ## Strings -/

theorem hexValue?_hexDigit : ∀ n < 16, hexValue? (Text.hexDigit n) = some n := by decide

/-- a control character is read back from its four digits -/
theorem readUnicodeEscape_control {c : Char} (control : c.toNat < 0x20) (rest : List Char) (place : TextPlace) :
    ∃ place', readUnicodeEscape
        ⟨'0' :: '0' :: Text.hexDigit (c.toNat / 16) :: Text.hexDigit (c.toNat % 16) :: rest, place⟩ =
      .ok (c, ⟨rest, place'⟩) := by
  have zero : hexValue? '0' = some 0 := rfl
  have high := hexValue?_hexDigit (c.toNat / 16) (by omega)
  have low := hexValue?_hexDigit (c.toNat % 16) (by omega)
  have value : ((0 * 16 + 0) * 16 + c.toNat / 16) * 16 + c.toNat % 16 = c.toNat := by omega
  have word : ∃ place', readHexWord
      ⟨'0' :: '0' :: Text.hexDigit (c.toNat / 16) :: Text.hexDigit (c.toNat % 16) :: rest, place⟩ =
        .ok (c.toNat, ⟨rest, place'⟩) := by
    unfold readHexWord
    simp only [zero, high, low, value]
    exact ⟨_, rfl⟩
  obtain ⟨place', read⟩ := word
  refine ⟨place', ?_⟩
  unfold readUnicodeEscape
  rw [read]
  have below : ¬0xdc00 ≤ c.toNat := by omega
  have single : c.toNat < 0xd800 := by omega
  simp [below, single, bind, Except.bind]

theorem readStringFrom_escapeChar (fuel : Nat) (done : List Char) (c : Char) (rest : List Char) (place : TextPlace) :
    ∃ place', readStringFrom (fuel + 1) done ⟨escapeChar c ++ rest, place⟩ =
      readStringFrom fuel (c :: done) ⟨rest, place'⟩ := by
  unfold escapeChar
  split_ifs with quote slash back form line ending tab control
  · exact ⟨_, by subst quote; rfl⟩
  · exact ⟨_, by subst slash; rfl⟩
  · exact ⟨_, by subst back; rfl⟩
  · exact ⟨_, by subst form; rfl⟩
  · exact ⟨_, by subst line; rfl⟩
  · exact ⟨_, by subst ending; rfl⟩
  · exact ⟨_, by subst tab; rfl⟩
  -- other control characters are written by their number
  · obtain ⟨place', read⟩ :=
      readUnicodeEscape_control control rest (Cursor.after (Cursor.after place '\\') 'u')
    let next := fun o : Outcome (Char × Cursor) => o.bind fun r => readStringFrom fuel (r.1 :: done) r.2
    exact ⟨place', congrArg next read⟩
  · refine ⟨Cursor.after place c, ?_⟩
    rw [List.singleton_append]
    -- the last rule of the reader is the one for plain characters: the three before it do not fit
    conv => lhs; unfold readStringFrom
    split
    · rename_i none
      cases none
    · rename_i isQuote
      exact absurd (List.cons.inj isQuote).1 quote
    · rename_i isSlash
      exact absurd (List.cons.inj isSlash).1 slash
    · rename_i same
      obtain ⟨rfl, rfl⟩ := List.cons.inj same
      exact if_neg control

/-- **A string is read back** up to the quote that ends it. -/
theorem reads_stringFrom {fuel : Nat} (chars done : List Char) (enough : chars.length < fuel) :
    Reads (readStringFrom fuel done) (chars.flatMap escapeChar ++ ['"']) (String.ofList (done.reverse ++ chars)) := by
  intro rest place
  obtain ⟨more, rfl⟩ := Nat.exists_eq_add_of_lt enough
  induction chars generalizing done place with
  | nil => exact ⟨_, by rw [List.append_nil]; rfl⟩
  | cons c chars ih =>
    obtain ⟨between, first⟩ := readStringFrom_escapeChar (chars.length + more + 1) done c
      (chars.flatMap escapeChar ++ ['"'] ++ rest) place
    obtain ⟨place', others⟩ := ih (c :: done) between (by omega)
    have fuels : (c :: chars).length + more + 1 = chars.length + more + 1 + 1 := by
      rw [List.length_cons]
      omega
    have result : (c :: done).reverse ++ chars = done.reverse ++ c :: chars := by
      rw [List.reverse_cons, List.append_assoc, List.singleton_append]
    refine ⟨place', ?_⟩
    rw [fuels, List.flatMap_cons, List.append_assoc, List.append_assoc, ← List.append_assoc _ _ rest, ← result]
    exact first.trans others

theorem length_le_escaped (chars : List Char) : chars.length ≤ (chars.flatMap escapeChar).length := by
  induction chars with
  | nil => exact Nat.le_refl 0
  | cons c chars ih =>
    have one : 0 < (escapeChar c).length := by
      unfold escapeChar
      split_ifs <;> simp
    rw [List.flatMap_cons, List.length_append, List.length_cons]
    omega

/-! ## White space -/

def IsGap (chars : List Char) : Prop := ∀ c ∈ chars, isSpace c = true

theorem isGap_nil : IsGap [] := List.forall_mem_nil _

theorem isGap_space : IsGap [' '] := List.forall_mem_singleton.2 rfl

theorem isGap_indent (level : Nat) : IsGap ('\n' :: indent level) :=
  List.forall_mem_cons.2 ⟨rfl, fun c hc => by rw [(List.mem_replicate.1 hc).2]; rfl⟩

/-- white space is skipped up to a character that is none -/
theorem skipSpace_gap {gap : List Char} (isGap : IsGap gap) {c : Char} (ends : isSpace c = false) (rest : List Char)
    (place : TextPlace) : ∃ place', skipSpace ⟨gap ++ c :: rest, place⟩ = ⟨c :: rest, place'⟩ := by
  unfold skipSpace
  induction gap generalizing place with
  | nil =>
    refine ⟨place, ?_⟩
    show (if isSpace c then _ else _) = _
    rw [ends]
    rfl
  | cons x gap ih =>
    obtain ⟨isSpace, others⟩ := List.forall_mem_cons.1 isGap
    obtain ⟨place', skipped⟩ := ih others (Cursor.after place x)
    refine ⟨place', ?_⟩
    show (if Reader.isSpace x then _ else _) = _
    rw [isSpace]
    exact skipped

theorem skipSpace_stands {c : Char} (ends : isSpace c = false) (rest : List Char) (place : TextPlace) :
    skipSpace ⟨c :: rest, place⟩ = ⟨c :: rest, place⟩ := by
  show (if isSpace c then _ else _) = _
  rw [ends]
  rfl

/-! ## Elements and members -/

/-- a character that a value without numbers starts with -/
def startsValue (c : Char) : Bool := ['n', 't', 'f', '"', '[', '\x7b'].contains c

theorem startsValue_facts {c : Char} (h : startsValue c = true) : isSpace c = false ∧ c ≠ ']' := by
  have among : c ∈ ['n', 't', 'f', '"', '[', '\x7b'] := List.contains_iff_mem.1 h
  simp only [List.mem_cons, List.not_mem_nil, or_false] at among
  rcases among with rfl | rfl | rfl | rfl | rfl | rfl <;> exact ⟨by decide, by decide⟩

/-- the comma before a part that is not the first -/
def comma (first : Bool) : List Char := if first then [] else [',']

theorem nextItem_part (first : Bool) {gap : List Char} (isGap : IsGap gap) {c : Char} (starts : startsValue c = true)
    (rest : List Char) (place : TextPlace) :
    ∃ place', nextItem first ⟨comma first ++ (gap ++ c :: rest), place⟩ = .ok (.part ⟨c :: rest, place'⟩) := by
  obtain ⟨ends, other⟩ := startsValue_facts starts
  cases first with
  | true =>
    obtain ⟨place', skipped⟩ := skipSpace_gap isGap ends rest place
    exact ⟨place', by simp [nextItem, comma, skipped]⟩
  | false =>
    obtain ⟨place', skipped⟩ := skipSpace_gap isGap ends rest (Cursor.after place ',')
    have stands : skipSpace ⟨',' :: (gap ++ c :: rest), place⟩ = ⟨',' :: (gap ++ c :: rest), place⟩ := rfl
    exact ⟨place', by simp [nextItem, comma, stands, Cursor.advance, skipped, other]⟩

theorem nextItem_end {gap : List Char} (isGap : IsGap gap) (first : Bool) (rest : List Char) (place : TextPlace) :
    ∃ place', nextItem first ⟨gap ++ ']' :: rest, place⟩ = .ok (.closed ⟨rest, place'⟩) := by
  obtain ⟨place', skipped⟩ := skipSpace_gap isGap (c := ']') rfl rest place
  refine ⟨Cursor.after place' ']', ?_⟩
  unfold nextItem
  rw [skipped]
  rfl

theorem nextKey_part (first : Bool) {gap : List Char} (isGap : IsGap gap) (rest : List Char) (place : TextPlace) :
    ∃ place', nextKey first ⟨comma first ++ (gap ++ '"' :: rest), place⟩ = .ok (.part ⟨'"' :: rest, place'⟩) := by
  cases first with
  | true =>
    obtain ⟨place', skipped⟩ := skipSpace_gap isGap (c := '"') rfl rest place
    exact ⟨place', by simp [nextKey, comma, skipped]⟩
  | false =>
    obtain ⟨place', skipped⟩ := skipSpace_gap isGap (c := '"') rfl rest (Cursor.after place ',')
    have stands : skipSpace ⟨',' :: (gap ++ '"' :: rest), place⟩ = ⟨',' :: (gap ++ '"' :: rest), place⟩ := rfl
    exact ⟨place', by simp [nextKey, comma, stands, Cursor.advance, skipped]⟩

theorem nextKey_end {gap : List Char} (isGap : IsGap gap) (first : Bool) (rest : List Char) (place : TextPlace) :
    ∃ place', nextKey first ⟨gap ++ '\x7d' :: rest, place⟩ = .ok (.closed ⟨rest, place'⟩) := by
  obtain ⟨place', skipped⟩ := skipSpace_gap isGap (c := '\x7d') rfl rest place
  refine ⟨Cursor.after place' '\x7d', ?_⟩
  unfold nextKey
  rw [skipped]
  rfl

section Parts

variable {readValue : Cursor → Outcome (Json × Cursor)} (level : Nat) {gap : List Char}

/-- an element at the front, behind the comma that sets it off, is read and put to those done -/
theorem readItems_part (first : Bool) {v : Json} (isRead : Reads readValue (prettyChars level v) v.sorted)
    (starts : ∃ c s, prettyChars level v = c :: s ∧ startsValue c = true) (done : List Json) (fuel : Nat)
    (later : List Char) (place : TextPlace) :
    ∃ after, readItems readValue (fuel + 1) first done
        ⟨comma first ++ '\n' :: indent level ++ prettyChars level v ++ later, place⟩ =
      readItems readValue fuel false (v.sorted :: done) ⟨later, after⟩ := by
  obtain ⟨c, s, written, isStart⟩ := starts
  obtain ⟨before, opened⟩ := nextItem_part first (isGap_indent level) isStart (s ++ later) place
  obtain ⟨after, value⟩ := isRead later before
  refine ⟨after, ?_⟩
  have text : comma first ++ '\n' :: indent level ++ prettyChars level v ++ later =
      comma first ++ ('\n' :: indent level ++ c :: (s ++ later)) := by
    simp [written]
  rw [text, readItems, opened]
  rw [written] at value
  show (readValue ⟨c :: s ++ later, before⟩).bind _ = _
  rw [value]
  rfl

/-- **The elements of a list are read back** when each of them is. -/
theorem reads_items {items : List Json} (each : ∀ v ∈ items, Reads readValue (prettyChars level v) v.sorted)
    (starts : ∀ v ∈ items, ∃ c s, prettyChars level v = c :: s ∧ startsValue c = true) (isGap : IsGap gap)
    (first : Bool) (done : List Json) {fuel : Nat} (enough : items.length < fuel) :
    Reads (readItems readValue fuel first done) (prettyItems level first items ++ gap ++ [']'])
      (done.reverse ++ items.map sorted) := by
  intro rest place
  -- each round reads one element, so the fuel has to exceed the number of elements
  induction items generalizing first done fuel place with
  | nil =>
    obtain ⟨fuel, rfl⟩ := Nat.exists_eq_succ_of_ne_zero (Nat.ne_zero_of_lt enough)
    obtain ⟨place', ends⟩ := nextItem_end isGap first rest place
    refine ⟨place', ?_⟩
    have text : prettyItems level first [] ++ gap ++ [']'] ++ rest = gap ++ ']' :: rest := by
      rw [prettyItems, List.nil_append, List.append_assoc, List.singleton_append]
    rw [text, readItems, ends, List.map_nil, List.append_nil]
    rfl
  | cons v items ih =>
    obtain ⟨fuel, rfl⟩ := Nat.exists_eq_succ_of_ne_zero (Nat.ne_zero_of_lt enough)
    obtain ⟨isRead, others⟩ := List.forall_mem_cons.1 each
    obtain ⟨isStart, laterStarts⟩ := List.forall_mem_cons.1 starts
    let later := prettyItems level false items ++ gap ++ [']'] ++ rest
    obtain ⟨after, step⟩ := readItems_part level first isRead isStart done fuel later place
    obtain ⟨place', rest'⟩ := ih others laterStarts false (v.sorted :: done) (Nat.lt_of_succ_lt_succ enough) after
    refine ⟨place', ?_⟩
    calc readItems readValue (fuel + 1) first done ⟨prettyItems level first (v :: items) ++ gap ++ [']'] ++ rest, place⟩
        = readItems readValue (fuel + 1) first done
            ⟨comma first ++ '\n' :: indent level ++ prettyChars level v ++ later, place⟩ := by
          simp [prettyItems, comma, later]
      _ = readItems readValue fuel false (v.sorted :: done) ⟨later, after⟩ := step
      _ = .ok (done.reverse ++ (v :: items).map sorted, ⟨rest, place'⟩) := by
          rw [rest']
          simp

/-- a member at the front, behind the comma that sets it off, is read and put among those done -/
theorem readMembers_part (first : Bool) (k : String) {v : Json}
    (isRead : Reads readValue (' ' :: prettyChars level v) v.sorted) (done : List (String × Json)) {fuel : Nat}
    (enough : k.toList.length < fuel + 1) (later : List Char) (place : TextPlace) :
    ∃ after, readMembers readValue (fuel + 1) first done
        ⟨comma first ++ '\n' :: indent level ++ prettyMember level (k, v) ++ later, place⟩ =
      readMembers readValue fuel false (putMember k v.sorted done) ⟨later, after⟩ := by
  let value := ' ' :: prettyChars level v ++ later
  obtain ⟨before, opened⟩ := nextKey_part first (isGap_indent level)
    (k.toList.flatMap escapeChar ++ ['"'] ++ ':' :: value) place
  obtain ⟨atColon, key⟩ := reads_stringFrom k.toList [] enough (':' :: value) (Cursor.after before '"')
  obtain ⟨after, isValue⟩ := isRead later (Cursor.after atColon ':')
  refine ⟨after, ?_⟩
  have text : comma first ++ '\n' :: indent level ++ prettyMember level (k, v) ++ later =
      comma first ++ ('\n' :: indent level ++ '"' :: (k.toList.flatMap escapeChar ++ ['"'] ++ ':' :: value)) := by
    simp [prettyMember, quote, value]
  rw [text, readMembers, opened]
  show (readStringFrom (fuel + 1) [] ⟨_, _⟩).bind _ = _
  rw [key, List.reverse_nil, List.nil_append, String.ofList_toList]
  show (readValue ⟨' ' :: prettyChars level v ++ later, Cursor.after atColon ':'⟩).bind _ = _
  rw [isValue]
  rfl

/-- **The members of an object are read back** when the value of each of them is. -/
theorem reads_members {ms : List (String × Json)}
    (each : ∀ m ∈ ms, Reads readValue (' ' :: prettyChars level m.2) m.2.sorted) (isGap : IsGap gap)
    (first : Bool) (done : List (String × Json)) {fuel : Nat} (enough : (prettyMembers level first ms).length < fuel) :
    Reads (readMembers readValue fuel first done) (prettyMembers level first ms ++ gap ++ ['\x7d'])
      (ms.foldl (fun acc m => putMember m.1 m.2.sorted acc) done) := by
  intro rest place
  -- the fuel bounds the length of the keys as well, so it has to exceed the length of the text
  induction ms generalizing first done fuel place with
  | nil =>
    obtain ⟨fuel, rfl⟩ := Nat.exists_eq_succ_of_ne_zero (Nat.ne_zero_of_lt enough)
    obtain ⟨place', ends⟩ := nextKey_end isGap first rest place
    refine ⟨place', ?_⟩
    have text : prettyMembers level first [] ++ gap ++ ['\x7d'] ++ rest = gap ++ '\x7d' :: rest := by
      rw [prettyMembers, List.nil_append, List.append_assoc, List.singleton_append]
    rw [text, readMembers, ends, List.foldl_nil]
    rfl
  | cons m ms ih =>
    obtain ⟨fuel, rfl⟩ := Nat.exists_eq_succ_of_ne_zero (Nat.ne_zero_of_lt enough)
    obtain ⟨isRead, others⟩ := List.forall_mem_cons.1 each
    obtain ⟨k, v⟩ := m
    let later := prettyMembers level false ms ++ gap ++ ['\x7d'] ++ rest
    have long : k.toList.length + (prettyMembers level false ms).length < fuel := by
      have := length_le_escaped k.toList
      simp only [prettyMembers, prettyMember, quote, List.length_append, List.length_cons] at enough
      omega
    have ofKey : k.toList.length < fuel + 1 := by omega
    have ofOthers : (prettyMembers level false ms).length < fuel := by omega
    obtain ⟨after, step⟩ := readMembers_part level first k isRead done ofKey later place
    obtain ⟨place', rest'⟩ := ih others false (putMember k v.sorted done) ofOthers after
    refine ⟨place', ?_⟩
    calc readMembers readValue (fuel + 1) first done
          ⟨prettyMembers level first ((k, v) :: ms) ++ gap ++ ['\x7d'] ++ rest, place⟩
        = readMembers readValue (fuel + 1) first done
            ⟨comma first ++ '\n' :: indent level ++ prettyMember level (k, v) ++ later, place⟩ := by
          simp [prettyMembers, comma, later]
      _ = readMembers readValue fuel false (putMember k v.sorted done) ⟨later, after⟩ := step
      _ = .ok (((k, v) :: ms).foldl (fun acc m => putMember m.1 m.2.sorted acc) done, ⟨rest, place'⟩) := rest'

end Parts

/-! ## Values -/

/-- a value without numbers whose brackets nest to a depth at most -/
def Nests : Nat → Json → Prop
  | _, .null => True
  | _, .bool _ => True
  | _, .number _ => False
  | _, .string _ => True
  | 0, .array _ => False
  | depth + 1, .array items => ∀ v ∈ items, Nests depth v
  | 0, .object _ => False
  | depth + 1, .object ms => ∀ m ∈ ms, Nests depth m.2

theorem Nests.starts {depth : Nat} {v : Json} (nests : Nests depth v) (level : Nat) :
    ∃ c s, prettyChars level v = c :: s ∧ startsValue c = true := by
  match v with
  | .null => exact ⟨_, _, rfl, rfl⟩
  | .bool true => exact ⟨_, _, rfl, rfl⟩
  | .bool false => exact ⟨_, _, rfl, rfl⟩
  | .number _ =>
    unfold Nests at nests
    exact nests.elim
  | .string _ => exact ⟨_, _, rfl, rfl⟩
  | .array [] => exact ⟨_, _, rfl, rfl⟩
  | .array (_ :: _) => exact ⟨_, _, rfl, rfl⟩
  | .object [] => exact ⟨_, _, rfl, rfl⟩
  | .object (_ :: _) => exact ⟨_, _, rfl, rfl⟩

theorem length_of_mem_items {level : Nat} {items : List Json} {v : Json} (isItem : v ∈ items) (first : Bool) :
    (prettyChars level v).length ≤ (prettyItems level first items).length := by
  induction items generalizing first with
  | nil => cases isItem
  | cons w items ih =>
    simp only [prettyItems, List.length_append]
    rcases List.mem_cons.1 isItem with rfl | later
    · omega
    · have := ih later false
      omega

theorem length_items (level : Nat) (items : List Json) (first : Bool) :
    items.length ≤ (prettyItems level first items).length := by
  induction items generalizing first with
  | nil => exact Nat.zero_le _
  | cons v items ih =>
    have := ih false
    simp only [prettyItems, List.length_append, List.length_cons]
    omega

theorem length_of_mem_members {level : Nat} {ms : List (String × Json)} {m : String × Json} (isMember : m ∈ ms)
    (first : Bool) : (prettyChars level m.2).length ≤ (prettyMembers level first ms).length := by
  induction ms generalizing first with
  | nil => cases isMember
  | cons n ms ih =>
    rcases List.mem_cons.1 isMember with rfl | later
    · obtain ⟨k, v⟩ := m
      simp only [prettyMembers, prettyMember, List.length_append, List.length_cons]
      omega
    · have := ih later false
      simp only [prettyMembers, List.length_append]
      omega

section Values

variable {fuel depth level : Nat}

/-- a value is read from its first character that is no white space -/
theorem readValue_skipSpace {c d : Cursor} (same : skipSpace c = skipSpace d) :
    readValue fuel (depth + 1) c = readValue fuel (depth + 1) d := by
  unfold readValue
  rw [same]

/-- a value that is read is read behind white space as well -/
theorem Reads.behind {v a : Json} (isRead : Reads (readValue fuel (depth + 1)) (prettyChars level v) a) {limit : Nat}
    (nests : Nests limit v) {gap : List Char} (isGap : IsGap gap) :
    Reads (readValue fuel (depth + 1)) (gap ++ prettyChars level v) a := by
  intro rest place
  obtain ⟨c, s, written, starts⟩ := nests.starts level
  have ends := (startsValue_facts starts).1
  obtain ⟨between, skipped⟩ := skipSpace_gap isGap ends (s ++ rest) place
  obtain ⟨place', read⟩ := isRead rest between
  refine ⟨place', ?_⟩
  rw [written] at read ⊢
  rw [← read, List.append_assoc]
  refine readValue_skipSpace ?_
  rw [List.cons_append, skipped]
  exact (skipSpace_stands ends (s ++ rest) between).symm

theorem reads_quote (s : String) (enough : (quote s).length < fuel) :
    Reads (readValue fuel (depth + 1)) (quote s) (.string s) := by
  intro rest place
  have shorter : s.toList.length < fuel := by
    have := length_le_escaped s.toList
    simp only [quote, List.length_append, List.length_cons] at enough
    omega
  obtain ⟨place', read⟩ := reads_stringFrom s.toList [] shorter rest (Cursor.after place '"')
  refine ⟨place', ?_⟩
  show (readStringFrom fuel [] ⟨s.toList.flatMap escapeChar ++ ['"'] ++ rest, Cursor.after place '"'⟩).bind _ = _
  rw [read, List.reverse_nil, List.nil_append, String.ofList_toList]
  rfl

theorem reads_array {items : List Json} {chars : List Char}
    (inner : Reads (readItems (readValue fuel (depth + 1)) fuel true []) chars (items.map sorted)) :
    Reads (readValue fuel (depth + 2)) ('[' :: chars) (Json.array items).sorted := by
  intro rest place
  obtain ⟨place', read⟩ := inner rest (Cursor.after place '[')
  refine ⟨place', ?_⟩
  show (readItems (readValue fuel (depth + 1)) fuel true [] ⟨chars ++ rest, Cursor.after place '['⟩).bind _ = _
  rw [read, sorted, sortedItems_eq]
  rfl

theorem reads_object {ms : List (String × Json)} {chars : List Char}
    (inner : Reads (readMembers (readValue fuel (depth + 1)) fuel true []) chars
      (ms.foldl (fun acc m => putMember m.1 m.2.sorted acc) [])) :
    Reads (readValue fuel (depth + 2)) ('\x7b' :: chars) (Json.object ms).sorted := by
  intro rest place
  obtain ⟨place', read⟩ := inner rest (Cursor.after place '\x7b')
  refine ⟨place', ?_⟩
  show (readMembers (readValue fuel (depth + 1)) fuel true [] ⟨chars ++ rest, Cursor.after place '\x7b'⟩).bind _ = _
  rw [read, sorted, sortedMembers_eq, ofMembers, List.foldl_map]
  rfl

end Values

/-- **A value is read back** at every depth that the reader goes to. -/
theorem reads_value {depth : Nat} {v : Json} (nests : Nests depth v) (level : Nat) {fuel : Nat}
    (enough : (prettyChars level v).length < fuel) : Reads (readValue fuel (depth + 1)) (prettyChars level v) v.sorted := by
  -- brackets without parts are written without white space in them
  match depth, v, nests with
  | _, .null, _ => exact fun _ _ => ⟨_, rfl⟩
  | _, .bool true, _ => exact fun _ _ => ⟨_, rfl⟩
  | _, .bool false, _ => exact fun _ _ => ⟨_, rfl⟩
  | _, .number _, nests =>
    unfold Nests at nests
    exact nests.elim
  | _, .string s, _ => exact reads_quote s enough
  | depth + 1, .array [], _ =>
    exact reads_array (reads_items level (List.forall_mem_nil _) (List.forall_mem_nil _) isGap_nil true []
      (Nat.zero_lt_of_lt enough))
  | depth + 1, .array (v :: items), nests =>
    have shorter : (prettyItems (level + 1) true (v :: items)).length < fuel := by
      simp only [prettyChars, List.length_append, List.length_cons] at enough
      omega
    have each : ∀ w ∈ v :: items, Reads (readValue fuel (depth + 1)) (prettyChars (level + 1) w) w.sorted :=
      fun w isItem => reads_value (nests w isItem) (level + 1) (Nat.lt_of_le_of_lt (length_of_mem_items isItem true) shorter)
    exact reads_array (reads_items (level + 1) each (fun w isItem => (nests w isItem).starts (level + 1))
      (isGap_indent level) true [] (Nat.lt_of_le_of_lt (length_items _ _ true) shorter))
  | depth + 1, .object [], _ =>
    exact reads_object (reads_members level (List.forall_mem_nil _) isGap_nil true [] (Nat.zero_lt_of_lt enough))
  | depth + 1, .object (m :: ms), nests =>
    have shorter : (prettyMembers (level + 1) true (m :: ms)).length < fuel := by
      simp only [prettyChars, List.length_append, List.length_cons] at enough
      omega
    have each : ∀ n ∈ m :: ms,
        Reads (readValue fuel (depth + 1)) (' ' :: prettyChars (level + 1) n.2) n.2.sorted := by
      intro n isMember
      have lessThan := Nat.lt_of_le_of_lt (length_of_mem_members isMember true) shorter
      have isRead := reads_value (nests n isMember) (level + 1) lessThan
      exact isRead.behind (nests n isMember) isGap_space
    exact reads_object (reads_members (level + 1) each (isGap_indent level) true [] shorter)

/-- **A text is read back** as the value that it was written for. -/
theorem parse_pretty {v : Json} (nests : Nests 127 v) : Json.parse (pretty v) = .ok v.sorted := by
  have enough : (prettyChars 0 v).length < (prettyChars 0 v).length + 1 := Nat.lt_succ_self _
  obtain ⟨place, read⟩ := reads_value nests 0 enough [] ⟨1, 0⟩
  rw [List.append_nil] at read
  unfold Json.parse
  rw [pretty, String.toList_ofList]
  show (readValue ((prettyChars 0 v).length + 1) (127 + 1) ⟨prettyChars 0 v, ⟨1, 0⟩⟩).bind _ = _
  rw [read]
  rfl

end ProcessBuild.Json
