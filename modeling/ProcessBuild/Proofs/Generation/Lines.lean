/-
Lines of generated source. The text of a comment stays on its line, whatever it is made from, and lines joined by line
ends are the first of them and then a line end before each other one.
-/
import ProcessBuild.Generation.Artifact
import ProcessBuild.Proofs.Source.Lexing

namespace ProcessBuild.Generation

open Source Lexer

theorem oneLine_commentText (s : String) : OneLine (commentText s).toList := by
  unfold commentText
  rw [String.toList_ofList]
  intro c hc
  obtain ⟨d, -, rfl⟩ := List.mem_map.1 hc
  have lineEnds : isControl '\n' = true ∧ isControl '\r' = true := ⟨rfl, rfl⟩
  split
  · decide
  · rename_i noControl
    constructor
    · rintro rfl
      exact noControl lineEnds.1
    · rintro rfl
      exact noControl lineEnds.2

theorem toList_joinLines (first : String) (rest : List String) :
    (joinLines (first :: rest)).toList = first.toList ++ rest.flatMap fun l => '\n' :: l.toList := by
  have step : ∀ (first : List Char) (ls : List String),
      List.intercalate ['\n'] (first :: ls.map String.toList) = first ++ ls.flatMap fun l => '\n' :: l.toList := by
    intro first ls
    induction ls generalizing first with
    | nil => simp [List.intercalate]
    | cons l ls ih => rw [List.map_cons, List.intercalate_cons_cons, ih, List.flatMap_cons]; simp
  unfold joinLines
  rw [String.toList_intercalate, List.map_cons]
  exact step _ _

end ProcessBuild.Generation
