/-
Artifacts by the places in them. A report may show the place of an error in a file of the output directory between any
blanks, and its own words may hold arrows and colons. The first line that shows a place counts; its last two parts are
numbers, so what is before them is the file, with whatever colons and blanks are in its name, and the part of it behind
the output directory is the path of the artifact.
- `exists_located?_iff`: which lines a file is found in.
- `locatedFile?_pointsTo`: the file that is found in a report.
- `blames_artifact`: the path that a report is blamed on.
-/
import Mathlib.Data.List.TakeWhile
import ProcessBuild.Proofs.Build.Blame

namespace ProcessBuild

open Text

namespace Text

theorem eq_append_of_afterStart? {start s rest : List Char} (h : afterStart? start s = some rest) : s = start ++ rest := by
  induction start generalizing s with
  | nil => simpa [afterStart?] using h
  | cons c start ih =>
    cases s with
    | nil => simp [afterStart?] at h
    | cons d s =>
      simp only [afterStart?] at h
      split at h
      · rename_i same
        simp [same, ih h]
      · cases h

theorem exists_beforeLast?_iff {mark : Char} {s : List Char} : (∃ before, beforeLast? mark s = some before) ↔ mark ∈ s := by
  simp [beforeLast?]

theorem eq_append_of_beforeLast? {mark : Char} {s before : List Char} (h : beforeLast? mark s = some before) :
    ∃ after, mark ∉ after ∧ s = before ++ mark :: after := by
  have occurs : mark ∈ s.reverse := by simpa using exists_beforeLast?_iff.1 ⟨before, h⟩
  obtain ⟨back, front, whole, last⟩ := List.eq_append_cons_of_mem occurs
  have split : s = front.reverse ++ mark :: back.reverse := by
    rw [← List.reverse_reverse s, whole]
    simp
  have notIn : mark ∉ back.reverse := mt List.mem_reverse.1 last
  have found := beforeLast?_append notIn front.reverse
  rw [← split, h] at found
  exact ⟨back.reverse, notIn, Option.some.inj found ▸ split⟩

/-- blanks behind a text do not count -/
theorem trimEnd_append {back : List Char} (blank : ∀ c ∈ back, isBlank c = true) (s : List Char) :
    trimEnd (s ++ back) = trimEnd s := by
  have reversed : ∀ c ∈ back.reverse, isBlank c = true := by simpa using blank
  unfold trimEnd
  rw [List.reverse_append, List.dropWhile_append_of_pos reversed]

/-- blanks around a text do not count -/
theorem trim_padded {front back : List Char} (inFront : ∀ c ∈ front, isBlank c = true)
    (behind : ∀ c ∈ back, isBlank c = true) (s : List Char) : trim (front ++ s ++ back) = trim s := by
  unfold trim trimStart
  rw [List.append_assoc, List.dropWhile_append_of_pos inFront, List.dropWhile_append]
  split
  · rename_i blank
    rw [List.isEmpty_iff.1 blank, List.dropWhile_eq_nil_iff.2 behind]
  · exact trimEnd_append behind _

end Text

namespace Diagnosis

/-! ## Places of artifacts -/

/-- a line shows a place: an arrow stands first in it, and colons before its last two parts -/
def ShowsPlace (line : String) : Prop :=
  ∃ file row column : List Char, trim line.toList = "--> ".toList ++ (file ++ ':' :: row ++ ':' :: column)

/-- a report points to a place first: a line of it shows the place between any blanks, and no line before that one shows
a place -/
def PointsTo (report : String) (p : Place) : Prop :=
  ∃ (before : List String) (front back after : String),
    report = String.join (before.map (· ++ "\n")) ++ (front ++ p.spell ++ back ++ after) ∧
    (∀ line ∈ before, '\n' ∉ line.toList ∧ ¬ShowsPlace line) ∧
    (∀ c ∈ front.toList ++ back.toList, isBlank c = true ∧ c ≠ '\n') ∧
    (after = "" ∨ ∃ more, after = "\n" ++ more)

/-- **A file is found in a line** exactly when the line shows a place. -/
theorem exists_located?_iff {line : String} : (∃ file, located? (trim line.toList) = some file) ↔ ShowsPlace line := by
  unfold located?
  constructor
  · rintro ⟨file, found⟩
    obtain ⟨cut, found, last⟩ := Option.bind_eq_some_iff.1 found
    obtain ⟨rest, arrow, first⟩ := Option.bind_eq_some_iff.1 found
    obtain ⟨row, -, rfl⟩ := eq_append_of_beforeLast? last
    obtain ⟨column, -, rfl⟩ := eq_append_of_beforeLast? first
    exact ⟨file, row, column, eq_append_of_afterStart? arrow⟩
  · rintro ⟨file, row, column, shown⟩
    obtain ⟨cut, first⟩ := exists_beforeLast?_iff.2 (by simp : ':' ∈ file ++ ':' :: row ++ ':' :: column)
    -- the first cut takes one colon away, so one is left for the second
    obtain ⟨after, notIn, split⟩ := eq_append_of_beforeLast? first
    have colons := congrArg (List.count ':') split
    have left : ':' ∈ cut := by
      rw [← List.count_pos_iff]
      simp [List.count_eq_zero_of_not_mem notIn] at colons
      omega
    obtain ⟨found, last⟩ := exists_beforeLast?_iff.2 left
    exact ⟨found, by rw [shown, afterStart?_append, Option.bind_some, first, Option.bind_some, last]⟩

instance (line : String) : Decidable (ShowsPlace line) :=
  decidable_of_iff ((located? (trim line.toList)).isSome = true) (Option.isSome_iff_exists.trans exists_located?_iff)

theorem head_trimmedLines {line after : String} (oneLine : '\n' ∉ line.toList)
    (ended : after = "" ∨ ∃ more, after = "\n" ++ more) :
    ∃ lines, trimmedLines (line ++ after).toList = trim line.toList :: lines := by
  unfold trimmedLines
  rcases ended with rfl | ⟨more, rfl⟩
  · exact ⟨[], by simp [pieces_eq_singleton oneLine]⟩
  · have whole : (line ++ ("\n" ++ more)).toList = line.toList ++ '\n' :: more.toList := by simp
    rw [whole, pieces_append, pieces_eq_singleton oneLine]
    exact ⟨_, rfl⟩

theorem notMem_spell {p : Place} (oneLine : '\n' ∉ p.file.toList) : '\n' ∉ p.spell.toList := by
  have digits : ∀ n : Nat, '\n' ∉ (toString n).toList := fun n inside =>
    absurd (Source.isDigit_of_mem_toString inside) (by decide)
  simp only [Place.spell, String.toList_append, List.mem_append, not_or]
  exact ⟨⟨⟨⟨⟨by decide, oneLine⟩, by decide⟩, digits p.line⟩, by decide⟩, digits p.column⟩

/-- **The file of the first place** that a report shows is found, whatever it is called. -/
theorem locatedFile?_pointsTo {report : String} {p : Place} (points : PointsTo report p)
    (oneLine : '\n' ∉ p.file.toList) : locatedFile? report.toList = some p.file.toList := by
  obtain ⟨before, front, back, after, rfl, others, blank, ended⟩ := points
  obtain ⟨blankFront, blankBack⟩ := List.forall_mem_append.1 blank
  have inLine : '\n' ∉ (front ++ p.spell ++ back).toList := by
    simp only [String.toList_append, List.mem_append, not_or]
    exact ⟨⟨fun inside => (blankFront _ inside).2 rfl, notMem_spell oneLine⟩, fun inside => (blankBack _ inside).2 rfl⟩
  have padded : trim (front ++ p.spell ++ back).toList = trim p.spell.toList := by
    rw [String.toList_append, String.toList_append]
    exact trim_padded (fun c inside => (blankFront c inside).1) (fun c inside => (blankBack c inside).1) _
  have earlier : (before.map fun line => trim line.toList).findSome? located? = none := by
    rw [List.findSome?_eq_none_iff]
    intro line inside
    obtain ⟨spelled, isLine, rfl⟩ := List.mem_map.1 inside
    exact Option.eq_none_iff_forall_ne_some.2 fun file found =>
      (others spelled isLine).2 (exists_located?_iff.1 ⟨file, found⟩)
  obtain ⟨lines, first⟩ := head_trimmedLines inLine ended
  unfold locatedFile?
  rw [trimmedLines_append fun line isLine => (others line isLine).1, List.findSome?_append, earlier, first, padded,
    List.findSome?_cons, located?_place]
  rfl

/-- **An artifact is blamed by its path** when the first place of a report is in the file that the path leads to from the
output directory, however the directory is spelled and wherever in the file the place is. -/
theorem blames_artifact {outputDir path report : String} {row column : Nat} (plain : Files.IsPlain path)
    (slashes : '\\' ∉ path.toList) (oneLine : '\n' ∉ outputDir.toList ∧ '\n' ∉ path.toList)
    (points : PointsTo report ⟨Files.join outputDir path, row, column⟩) : (ofReport report outputDir).path = path := by
  have inLine : '\n' ∉ (Files.join outputDir path).toList := by
    obtain ⟨directory, file⟩ := oneLine
    unfold Files.join
    split_ifs <;> simp [directory, file]
  have found := locatedFile?_pointsTo points inLine
  unfold ofReport blamedFile
  rw [found]
  show seenFrom outputDir (String.ofList (Files.join outputDir path).toList) = path
  rw [String.ofList_toList]
  exact blamed_join (p := ⟨_, row, column⟩) rfl plain slashes

/-- the place of an artifact with blanks and colons in its path, behind an arrow that shows no place -/
theorem spacedReport_blames :
    let outputDir := "./out dir//gen/./"
    let path := "pro cesses/a:b.rs"
    let report := "error: boom\n--> note: no place\n\t --> ./out dir//gen/./pro cesses/a:b.rs:3:14\r\n  |\n"
    Files.IsPlain path ∧ PointsTo report ⟨Files.join outputDir path, 3, 14⟩ ∧ (ofReport report outputDir).path = path := by
  intro outputDir path report
  have plain : Files.IsPlain path := by decide
  have blank : ("\t ".toList ++ "\r".toList).all (fun c => isBlank c && c ≠ '\n') = true := by decide
  have points : PointsTo report ⟨Files.join outputDir path, 3, 14⟩ :=
    ⟨["error: boom", "--> note: no place"], "\t ", "\r", "\n  |\n", by decide +kernel, by decide +kernel,
      by simpa using blank, .inr ⟨"  |\n", by decide⟩⟩
  exact ⟨plain, points, blames_artifact plain (by decide) (by decide) points⟩

end Diagnosis
end ProcessBuild
