/-
What a report of the external compiler is blamed on. A report is a sequence of messages: a line that says how grave the
message is and what it says, and then at most one line with a place in a file. The file that is blamed is that of the
first place of the report, whichever message has it. So it is that of the first error if no other message shows a place
before, and if none shows one at all where the error itself does not.
- `locatedFile?_report`: the place that is found in a report.
- `blames_first_error`: when it is that of the first error.
-/
import ProcessBuild.Build.Diagnosis
import ProcessBuild.Proofs.Files.Places
import ProcessBuild.Proofs.Source.Naming

namespace ProcessBuild

open Text

namespace Text

/-- a text with no blank in front keeps its first character when it is trimmed -/
theorem trim_cons {c : Char} (h : isBlank c = false) (s : List Char) : ∃ rest, trim (c :: s) = c :: rest := by
  have front : trimStart (c :: s) = c :: s := dropWhile_of_head fun d hd => Option.some.inj hd ▸ h
  have kept : ∃ rest, (s.reverse ++ [c]).dropWhile isBlank = rest ++ [c] := by
    rw [List.dropWhile_append]
    split
    · exact ⟨[], by simp [h]⟩
    · exact ⟨_, rfl⟩
  obtain ⟨rest, kept⟩ := kept
  refine ⟨rest.reverse, ?_⟩
  rw [trim, front, trimEnd, List.reverse_cons, kept, List.reverse_append]
  rfl

/-- a text with no blank at its ends stays as it is when it is trimmed -/
theorem trim_of_ends {s : List Char} (front : ∀ c, s.head? = some c → isBlank c = false)
    (back : ∀ c, s.getLast? = some c → isBlank c = false) : trim s = s := by
  have start : trimStart s = s := dropWhile_of_head front
  have ending : s.reverse.dropWhile isBlank = s.reverse :=
    dropWhile_of_head fun c hc => back c (by rwa [List.head?_reverse] at hc)
  rw [trim, start, trimEnd, ending, List.reverse_reverse]

theorem afterStart?_append (start rest : List Char) : afterStart? start (start ++ rest) = some rest := by
  induction start with
  | nil => rfl
  | cons c start ih => simpa [afterStart?] using ih

theorem beforeLast?_append {mark : Char} {after : List Char} (h : mark ∉ after) (before : List Char) :
    beforeLast? mark (before ++ mark :: after) = some before := by
  have dropped : (before ++ mark :: after).reverse.dropWhile (· ≠ mark) = mark :: before.reverse := by
    rw [List.reverse_append, List.reverse_cons, List.append_assoc, List.dropWhile_append_of_pos]
    · simp
    · intro x hx
      exact decide_eq_true fun same => h (same ▸ List.mem_reverse.1 hx)
  unfold beforeLast?
  rw [dropped, if_pos (by simp)]
  simp

end Text

namespace Diagnosis

/-! ## Reports -/

/-- how grave a message is; an error can have a code -/
inductive Severity where
  | warning
  | error
  | coded (code : String)
  deriving DecidableEq, Repr

/-- a place in a file -/
structure Place where
  file : String
  line : Nat
  column : Nat
  deriving DecidableEq, Repr

/-- a message of a report -/
structure Message where
  severity : Severity
  text : String
  place : Option Place
  deriving DecidableEq, Repr

def Severity.isError : Severity → Bool
  | warning => false
  | error => true
  | coded _ => true

/-- what a message starts with -/
def Severity.head : Severity → String
  | warning => "warning: "
  | error => "error: "
  | coded code => "error[E" ++ code ++ "]: "

/-- a place as a report shows it -/
def Place.spell (p : Place) : String := "--> " ++ p.file ++ ":" ++ toString p.line ++ ":" ++ toString p.column

def Message.lines (m : Message) : List String := (m.severity.head ++ m.text) :: (m.place.map Place.spell).toList

/-- a report that is a sequence of messages; neither the blanks around its lines nor lines without anything else count -/
def Reports (report : String) (ms : List Message) : Prop :=
  (trimmedLines report.toList).filter (!·.isEmpty) = (ms.flatMap Message.lines).map fun line => trim line.toList

/-- a message starts with a letter -/
theorem Message.front (m : Message) : ∃ c rest, (m.severity.head ++ m.text).toList = c :: rest ∧ isBlank c = false ∧
    c ≠ '-' := by
  obtain ⟨c, rest, whole, letter⟩ : ∃ c rest, m.severity.head.toList = c :: rest ∧ (c = 'w' ∨ c = 'e') := by
    cases m.severity with
    | warning => exact ⟨_, _, rfl, Or.inl rfl⟩
    | error => exact ⟨_, _, rfl, Or.inr rfl⟩
    | coded code =>
      refine ⟨'e', "rror[E".toList ++ code.toList ++ "]: ".toList, ?_, Or.inr rfl⟩
      rw [Severity.head, String.toList_append, String.toList_append]
      rfl
  refine ⟨c, rest ++ m.text.toList, by rw [String.toList_append, whole, List.cons_append], ?_⟩
  rcases letter with rfl | rfl <;> decide

theorem Message.trim_ne_nil {m : Message} {line : String} (h : line ∈ m.lines) : trim line.toList ≠ [] := by
  obtain ⟨c, rest, whole, blank⟩ : ∃ c rest, line.toList = c :: rest ∧ isBlank c = false := by
    rcases List.mem_cons.1 h with rfl | inPlace
    · obtain ⟨c, rest, whole, blank, -⟩ := m.front
      exact ⟨c, rest, whole, blank⟩
    · obtain ⟨p, -, rfl⟩ := Option.map_eq_some_iff.1 (Option.mem_toList.1 inPlace)
      exact ⟨'-', "-> ".toList ++ (p.file ++ ":" ++ toString p.line ++ ":" ++ toString p.column).toList,
        by simp [Place.spell], by decide⟩
  obtain ⟨kept, trimmed⟩ := trim_cons blank rest
  rw [whole, trimmed]
  exact List.cons_ne_nil _ _

def reportText (ms : List Message) : String := String.join ((ms.flatMap Message.lines).map (· ++ "\n"))

theorem trimmedLines_append {lines : List String} (oneLine : ∀ line ∈ lines, '\n' ∉ line.toList) (rest : String) :
    trimmedLines (String.join (lines.map (· ++ "\n")) ++ rest).toList =
      lines.map (fun line => trim line.toList) ++ trimmedLines rest.toList := by
  induction lines with
  | nil => simp
  | cons line lines ih =>
    obtain ⟨whole, others⟩ := List.forall_mem_cons.1 oneLine
    have ended : (String.join ((line :: lines).map (· ++ "\n")) ++ rest).toList =
        line.toList ++ '\n' :: (String.join (lines.map (· ++ "\n")) ++ rest).toList := by
      simp [String.join_cons]
    have inOthers := ih others
    unfold trimmedLines at inOthers ⊢
    rw [ended, pieces_append, pieces_eq_singleton whole, List.map_append, inOthers]
    rfl

theorem trimmedLines_text {lines : List String} (oneLine : ∀ line ∈ lines, '\n' ∉ line.toList) :
    trimmedLines (String.join (lines.map (· ++ "\n"))).toList = lines.map (fun line => trim line.toList) ++ [[]] := by
  have ended := trimmedLines_append oneLine ""
  rwa [String.append_empty] at ended

/-- **Every sequence of messages** without line breaks in their lines is reported by its text. -/
theorem reports_text {ms : List Message} (oneLine : ∀ m ∈ ms, ∀ line ∈ m.lines, '\n' ∉ line.toList) :
    Reports (reportText ms) ms := by
  have apart : ∀ line ∈ ms.flatMap Message.lines, '\n' ∉ line.toList := fun line inside => by
    obtain ⟨m, inReport, inMessage⟩ := List.mem_flatMap.1 inside
    exact oneLine m inReport line inMessage
  unfold Reports reportText
  rw [trimmedLines_text apart, List.filter_append, List.filter_eq_self.2]
  · exact List.append_nil _
  · intro line inside
    obtain ⟨spelled, isLine, rfl⟩ := List.mem_map.1 inside
    obtain ⟨m, -, inMessage⟩ := List.mem_flatMap.1 isLine
    simp [Message.trim_ne_nil inMessage]

def firstError? (ms : List Message) : Option Message := ms.find? (·.severity.isError)

/-- the first place that a report shows -/
def firstPlace? (ms : List Message) : Option Place := ms.findSome? (·.place)

/-! ## What is blamed -/

/-- no message starts as a place does -/
theorem located?_message (m : Message) : located? (trim (m.severity.head ++ m.text).toList) = none := by
  obtain ⟨c, rest, whole, blank, arrow⟩ := m.front
  obtain ⟨kept, trimmed⟩ := trim_cons blank rest
  rw [whole, trimmed]
  simp [located?, afterStart?, arrow.symm]

theorem isBlank_of_isDigit {c : Char} (h : isDigit c = true) : isBlank c = false := by
  simp only [isDigit, Bool.and_eq_true, decide_eq_true_eq] at h
  rw [Bool.eq_false_iff]
  intro blank
  simp only [isBlank, Bool.or_eq_true, Bool.and_eq_true, decide_eq_true_eq, beq_iff_eq] at blank
  omega

/-- **A place is found** in the line that shows it, whatever the file is called. -/
theorem located?_place (p : Place) : located? (trim p.spell.toList) = some p.file.toList := by
  have digits : ∀ (n : Nat) (c : Char), c ∈ (toString n).toList → isDigit c = true := fun n c hc =>
    Source.isDigit_of_mem_toString hc
  have noColon : ∀ n : Nat, ':' ∉ (toString n).toList := fun n colon => absurd (digits n ':' colon) (by decide)
  have spelled : p.spell.toList = "--> ".toList ++
      ((p.file.toList ++ ':' :: (toString p.line).toList) ++ ':' :: (toString p.column).toList) := by
    simp [Place.spell]
  have trimmed : trim p.spell.toList = p.spell.toList := by
    refine trim_of_ends (fun c hc => ?_) fun c hc => ?_
    · rw [spelled] at hc
      obtain rfl : '-' = c := Option.some.inj hc
      decide
    · have filled : (toString p.column).toList ≠ [] := by
        have decimal : (toString p.column).toList = Nat.toDigits 10 p.column := Nat.toList_repr
        rw [decimal]
        exact Nat.toDigits_ne_nil
      rw [Place.spell, String.toList_append, List.getLast?_append_of_ne_nil _ filled] at hc
      exact isBlank_of_isDigit (digits p.column c (List.mem_of_getLast? hc))
  rw [trimmed, spelled, located?, afterStart?_append, Option.bind_some, beforeLast?_append (noColon p.column),
    Option.bind_some, beforeLast?_append (noColon p.line)]

theorem findSome?_filter {α β : Type} {f : α → Option β} {p : α → Bool} (h : ∀ a, p a = false → f a = none)
    (l : List α) : (l.filter p).findSome? f = l.findSome? f := by
  induction l with
  | nil => rfl
  | cons a l ih =>
    cases kept : p a with
    | true => rw [List.filter_cons_of_pos kept, List.findSome?_cons, List.findSome?_cons, ih]
    | false =>
      rw [List.filter_cons_of_neg (Bool.eq_false_iff.1 kept), List.findSome?_cons, h a kept, ih]

theorem located?_messages (ms : List Message) :
    ((ms.flatMap Message.lines).map fun line => trim line.toList).findSome? located? =
      (firstPlace? ms).map fun p => p.file.toList := by
  induction ms with
  | nil => rfl
  | cons m ms ih =>
    rw [List.flatMap_cons, Message.lines, List.cons_append, List.map_cons, List.findSome?_cons, located?_message]
    unfold firstPlace? at ih ⊢
    cases place : m.place with
    | none => simpa [place] using ih
    | some p => simp [place, located?_place]

/-- **The place that is found in a report** is the first one of its messages. -/
theorem locatedFile?_report {report : String} {ms : List Message} (reports : Reports report ms) :
    locatedFile? report.toList = (firstPlace? ms).map fun p => p.file.toList := by
  have skipped : ∀ line : List Char, (!line.isEmpty) = false → located? line = none := by
    intro line empty
    cases line with
    | nil => rfl
    | cons c line => cases empty
  rw [← located?_messages, ← reports, findSome?_filter skipped]
  rfl

/-- the file of a place as it is blamed, seen from the output directory; the crate root where there is no place -/
def blamed (outputDir : String) : Option Place → String
  | some p => seenFrom outputDir p.file
  | none => "lib.rs"

theorem path_ofReport {report : String} {ms : List Message} (reports : Reports report ms) (outputDir : String) :
    (ofReport report outputDir).path = blamed outputDir (firstPlace? ms) := by
  unfold ofReport blamedFile
  rw [locatedFile?_report reports]
  cases firstPlace? ms with
  | none => rfl
  | some p => simp [blamed]

theorem blamed_join {p : Place} {outputDir path : String} (file : p.file = Files.join outputDir path)
    (plain : Files.IsPlain path) (slashes : '\\' ∉ path.toList) : blamed outputDir (some p) = path := by
  have kept : path.toList.map slashed = path.toList := by
    refine (List.map_congr_left fun c hc => ?_).trans (List.map_id _)
    have other : c ≠ '\\' := fun backslash => slashes (backslash ▸ hc)
    exact if_neg other
  rw [blamed, seenFrom, file, Files.below?_join plain, Option.getD_some, kept, String.ofList_toList]

/-- **The first error is blamed** if the first place of the report is its place. What is blamed is then the file of this
place, seen from the output directory, or the crate root if the error has no place; a file in the output directory is
blamed by its path there. -/
theorem blames_first_error {report : String} {ms : List Message} (reports : Reports report ms)
    (leads : ∀ p, firstPlace? ms = some p → (firstError? ms).bind Message.place = some p) (outputDir : String) :
    (ofReport report outputDir).path = blamed outputDir ((firstError? ms).bind Message.place) ∧
      ∀ p path, (firstError? ms).bind Message.place = some p → p.file = Files.join outputDir path →
        Files.IsPlain path → '\\' ∉ path.toList → (ofReport report outputDir).path = path := by
  have path_eq : (ofReport report outputDir).path = blamed outputDir ((firstError? ms).bind Message.place) := by
    rw [path_ofReport reports]
    cases first : firstPlace? ms with
    | some p => rw [leads p first]
    | none =>
      -- where no message has a place, the error has none either
      cases found : firstError? ms with
      | none => rfl
      | some m =>
        have noPlace : m.place = none := List.findSome?_eq_none_iff.1 first m (List.mem_of_find?_eq_some found)
        rw [Option.bind_some, noPlace]
  refine ⟨path_eq, fun p path place file plain slashes => ?_⟩
  rw [path_eq, place, blamed_join file plain slashes]

/-- a warning without a place, an error, the line that counts the errors, and a warning about another file -/
def lintedMessages : List Message := [
  ⟨.warning, "unused import: `std::fmt`", none⟩,
  ⟨.coded "0433", "failed to resolve: use of `-->`", some ⟨"/out/processes/order.rs", 3, 9⟩⟩,
  ⟨.error, "aborting due to 1 previous error", none⟩, ⟨.warning, "unused variable", some ⟨"/out/lib.rs", 1, 1⟩⟩]

theorem lintedMessages_blame :
    Reports (reportText lintedMessages) lintedMessages ∧
    (∀ p, firstPlace? lintedMessages = some p → (firstError? lintedMessages).bind Message.place = some p) ∧
    (ofReport (reportText lintedMessages) "/out").path = "processes/order.rs" := by
  have reports : Reports (reportText lintedMessages) lintedMessages := reports_text (by decide +kernel)
  have leads : ∀ p, firstPlace? lintedMessages = some p → (firstError? lintedMessages).bind Message.place = some p :=
    fun _ first => first
  have blames := blames_first_error reports leads "/out"
  exact ⟨reports, leads, blames.2 _ "processes/order.rs" rfl (by decide) (by decide) (by decide)⟩

/-- a place that a warning shows is blamed for an error behind it, and one behind an error for the error -/
example :
    ofReport "warning: bang\n --> /out/a.rs:1:1\nerror: boom\n --> /out/b.rs:2:2\n" "/out" = ⟨"a.rs", "boom"⟩ ∧
    ofReport "error: boom\nwarning: bang\n --> /out/a.rs:1:1\n" "/out" = ⟨"a.rs", "boom"⟩ := by
  decide +kernel

end Diagnosis
end ProcessBuild
