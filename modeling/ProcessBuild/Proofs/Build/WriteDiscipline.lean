/-
What a build writes, and when. Everything that can be wrong with the environment or the models is found before the first
file is written; code that is not accepted is found after the artifacts are written and before the allow-list is. The
files of a build have distinct plain paths below the output directory, so each of them is there in the end with the text
that it was given, and no other file is changed.
- `isArtifactPath_of_run`: the paths of artifacts are plain and distinct, and none is the path of the allow-list.
- `writeArtifacts_kept`: what writing artifacts comes to.
- `run_writes`: what is written in a build, however it ends.
-/
import ProcessBuild.Proofs.Build.Acceptance
import ProcessBuild.Proofs.Build.Reproducible
import ProcessBuild.Proofs.Reflection.AllowList

namespace ProcessBuild

open Source Generation Files Files.Tree

/-! ## Paths of artifacts -/

namespace Generation

/-- a path that is kept apart from the allow-list -/
def IsArtifactPath (path : String) : Prop := IsPlain path ∧ path ≠ AllowList.filePath

instance (path : String) : Decidable (IsArtifactPath path) :=
  inferInstanceAs (Decidable (IsPlain path ∧ path ≠ AllowList.filePath))

theorem isPlain_allowList : IsPlain AllowList.filePath := by decide

/-- a file that is named after a stem, in a directory of its own -/
theorem isArtifactPath_around {front stem back : String} (directory : List Char) (name : IsName stem.toList)
    (opens : front.toList = directory ++ ['/']) (apart : '/' ∉ directory ∧ '/' ∉ back.toList)
    (letters : 's' ∈ directory ∧ 's' ∈ back.toList) : IsArtifactPath (front ++ stem ++ back) := by
  have whole : (front ++ stem ++ back).toList = directory ++ '/' :: (stem.toList ++ back.toList) := by
    simp [opens]
  have noSlash : '/' ∉ stem.toList ++ back.toList := by
    intro inFile
    rcases List.mem_append.1 inFile with inStem | inBack
    · exact Bool.false_ne_true (name.chars '/' inStem)
    · exact apart.2 inBack
  refine ⟨isPlain_file whole ⟨apart.1, noSlash⟩ ?_, ?_⟩
  · have notDot : 's' ≠ '.' := by decide
    refine List.forall_mem_cons.2 ⟨isPart_of_mem letters.1 notDot, List.forall_mem_singleton.2 ?_⟩
    exact isPart_of_mem (List.mem_append_right _ letters.2) notDot
  · intro same
    have noneThere : '/' ∉ AllowList.filePath.toList := by decide
    rw [← same, whole] at noneThere
    exact noneThere (List.mem_append_right _ List.mem_cons_self)

theorem isArtifactPath_groups {stems : List String} (names : ∀ stem ∈ stems, IsName stem.toList) (e : Environment)
    (wantsRest : Bool) : ∀ path ∈ (pathGroups e wantsRest stems).flatMap Prod.snd, IsArtifactPath path := by
  have around : ∀ {front back : String} (directory : List Char), front.toList = directory ++ ['/'] →
      '/' ∉ directory ∧ '/' ∉ back.toList → 's' ∈ directory ∧ 's' ∈ back.toList →
        ∀ path ∈ stems.map fun stem => front ++ stem ++ back, IsArtifactPath path := by
    intro front back directory opens apart letters
    refine List.forall_mem_map.2 fun stem isStem => ?_
    exact isArtifactPath_around directory (names stem isStem) opens apart letters
  have single : ∀ path, IsArtifactPath path → ∀ other ∈ [path], IsArtifactPath other := fun path isPath =>
    List.forall_mem_singleton.2 isPath
  have none : ∀ path ∈ ([] : List String), IsArtifactPath path := List.forall_mem_nil _
  simp only [pathGroups, List.flatMap_cons, List.flatMap_nil, List.append_nil, List.forall_mem_append]
  refine ⟨around "processes".toList rfl (by decide) (by decide), around "events".toList rfl (by decide) (by decide),
    ?rest, ?messaging, ?hotReload, single _ (by decide), single _ (by decide)⟩
  case rest =>
    split
    · exact around "rest".toList rfl (by decide) (by decide)
    · exact none
  case messaging =>
    split
    · exact single _ (by decide)
    · exact none
  case hotReload =>
    split
    · exact none
    · exact single _ (by decide)

/-- **The paths of artifacts** are plain and distinct, and none is the path of the allow-list. -/
theorem isArtifactPath_of_run {input : GenerationInput} {e : Environment} {wantsRest : Bool} {artifacts : List Artifact}
    (generated : run (discover input.models e wantsRest) input = .ok artifacts) :
    (∀ a ∈ artifacts, IsArtifactPath a.path) ∧ (artifacts.map Artifact.path).Nodup := by
  obtain ⟨files, translated, rfl, distinct⟩ := run_discover_ok_iff.1 generated
  refine ⟨fun a isArtifact => ?_, distinct⟩
  have names : ∀ stem ∈ (modelsById input.models).map fun m => fileStem m.id, IsName stem.toList :=
    List.forall_mem_map.2 fun m _ => isName_fileStem m.id
  have inGroups := List.mem_map_of_mem (f := Artifact.path) isArtifact
  rw [paths_artifacts translated] at inGroups
  exact isArtifactPath_groups names e wantsRest a.path inGroups

end Generation

/-! ## Writing artifacts -/

def Artifact.file (a : Artifact) : String × String := (a.path, a.content)

section Writing

variable {root : String} {artifacts : List Artifact} {t t' : Files.Tree}

/-- plain paths that are distinct lead to distinct places below a directory -/
theorem distinct_places {paths : List String} (plain : ∀ path ∈ paths, IsPlain path) (distinct : paths.Nodup)
    (here : Location) (root : String) : (paths.map fun path => placeFrom here (join root path)).Nodup := by
  refine distinct.map_on fun path isPath other isOther same => ?_
  rw [placeFrom_plain (plain path isPath), placeFrom_plain (plain other isOther)] at same
  exact names_injective (List.append_cancel_left same)

/-- **Artifacts that are written** all hold their texts, and every other file is left alone. -/
theorem writeArtifacts_kept (paths : ∀ a ∈ artifacts, IsArtifactPath a.path)
    (distinct : (artifacts.map Artifact.path).Nodup) (h : writeArtifacts root artifacts t = (.ok (), t')) :
    Kept (artifacts.map fun a => placeFrom t.here (join root a.path)) t t' ∧
      ∀ a ∈ artifacts, t'.read (join root a.path) = .ok a.content := by
  obtain ⟨_, between, made, written⟩ := bind_ok_iff.1 h
  have directories := keeps_ensureDirectories root t
  rw [made] at directories
  have plain : ∀ path ∈ artifacts.map Artifact.path, IsPlain path :=
    List.forall_mem_map.2 fun a isArtifact => (paths a isArtifact).1
  have places := distinct_places plain distinct between.here root
  rw [List.map_map] at places
  obtain ⟨kept, held⟩ := writeAll_kept written places
  rw [directories.here] at kept
  exact ⟨directories.trans kept, held⟩

/-- the place of the allow-list is none of those of artifacts -/
theorem allowList_apart (paths : ∀ a ∈ artifacts, IsArtifactPath a.path) (here : Location) (root : String) :
    placeFrom here (join root AllowList.filePath) ∉ artifacts.map fun a => placeFrom here (join root a.path) := by
  intro taken
  obtain ⟨a, isArtifact, same⟩ := List.mem_map.1 taken
  obtain ⟨plain, other⟩ := paths a isArtifact
  rw [placeFrom_plain plain, placeFrom_plain isPlain_allowList] at same
  exact other (names_injective (List.append_cancel_left same))

end Writing

/-! ## Builds -/

namespace BuildInput

open BuildStage

variable {input : BuildInput} {compiler : ExternalCompiler} {s t : BuildState} {output : BuildOutput}

/-- the artifacts of a build that are written have plain paths and hold their texts, and every other file is left alone -/
theorem kept_of_artifacts {gate : RestGate} {artifacts : List Artifact} {before after : Files.Tree}
    (generated : input.artifacts gate = .ok artifacts)
    (wrote : writeArtifacts input.settings.outputDir artifacts before = (.ok (), after)) :
    (∀ a ∈ artifacts, IsArtifactPath a.path) ∧
      Kept (artifacts.map fun a => placeFrom before.here (join input.settings.outputDir a.path)) before after ∧
        ∀ a ∈ artifacts, after.read (join input.settings.outputDir a.path) = .ok a.content := by
  obtain ⟨paths, distinct⟩ := @isArtifactPath_of_run input.generation _ _ _ generated
  exact ⟨paths, writeArtifacts_kept paths distinct wrote⟩

theorem writes_of_run (off : input.settings.compilerCheck = false) (h : input.run compiler s = (.ok output, t)) :
    ∃ written, writeArtifacts input.settings.outputDir output.artifacts s.tree = (.ok (), written) ∧
      writeFile (join input.settings.outputDir AllowList.filePath) output.allowList.fileText written = (.ok (), t.tree) := by
  unfold run at h
  obtain ⟨gate, _, checked, h⟩ := bind_ok_iff.1 h
  obtain ⟨-, rfl⟩ := ofExcept_ok_iff.1 checked
  obtain ⟨artifacts, _, generated, h⟩ := bind_ok_iff.1 h
  obtain ⟨-, rfl⟩ := ofExcept_ok_iff.1 generated
  obtain ⟨⟨⟩, _, stage, h⟩ := bind_ok_iff.1 h
  obtain ⟨written, wrote, rfl⟩ := files_ok_iff.1 stage
  obtain ⟨units, _, compiled, h⟩ := bind_ok_iff.1 h
  rw [compile, off] at compiled
  obtain ⟨-, rfl⟩ := ofExcept_ok_iff.1 compiled
  obtain ⟨⟨⟩, _, stage, h⟩ := bind_ok_iff.1 h
  obtain ⟨last, listed, rfl⟩ := files_ok_iff.1 stage
  obtain ⟨rfl, rfl⟩ := pure_ok_iff.1 h
  exact ⟨written, wrote, listed⟩

/-- **The write discipline of a build** without the compiler check, whatever the file tree is. A build that fails before
its files are written leaves everything as it was. One that reports code that does not compile has written its artifacts
and has not touched the allow-list. One that succeeds has written its artifacts and the allow-list that it returns. Each
file is at its place below the output directory with its text, and no other file is changed. -/
theorem run_writes (off : input.settings.compilerCheck = false) (compiler : ExternalCompiler) (s t : BuildState) :
    (∀ e, input.run compiler s = (.error e, t) → e.isEarly = true → t = s) ∧
    (∀ path reason, input.run compiler s = (.error (.compilation path reason), t) →
      ∃ gate artifacts, RestGate.check input.environment = .ok gate ∧ input.artifacts gate = .ok artifacts ∧
        s.tree.WritesBelow input.settings.outputDir (artifacts.map Artifact.file) t.tree ∧
        t.tree.content? (placeFrom s.tree.here (join input.settings.outputDir "reflection-config.json")) =
          s.tree.content? (placeFrom s.tree.here (join input.settings.outputDir "reflection-config.json"))) ∧
    ∀ output, input.run compiler s = (.ok output, t) →
      AllowList.IsWritten output.allowList output.allowList.fileText ∧
        s.tree.WritesBelow input.settings.outputDir
          (output.artifacts.map Artifact.file ++ [("reflection-config.json", output.allowList.fileText)]) t.tree := by
  refine ⟨?early, ?compilation, ?success⟩
  case early =>
    intro e failed isEarly
    cases fails_of_run off failed with
    | early => rfl
    | files => cases isEarly
    | compilation => cases isEarly
  case compilation =>
    intro path reason failed
    cases fails_of_run off failed with
    | early isEarly => cases isEarly
    | compilation checked generated wrote refused =>
      obtain ⟨paths, kept, held⟩ := kept_of_artifacts generated wrote
      refine ⟨_, _, checked, generated, writesBelow_of_kept ?_ ?_ ?_, kept.files _ (allowList_apart paths _ _)⟩
      · exact List.forall_mem_map.2 fun a isArtifact => (paths a isArtifact).1
      · rw [List.map_map]
        exact kept
      · exact List.forall_mem_map.2 held
  case success =>
    intro output built
    obtain ⟨written, wrote, listed⟩ := writes_of_run off built
    obtain ⟨paths, kept, held⟩ := kept_of_artifacts (makes_of_run built).artifacts wrote
    obtain ⟨keptList, heldList⟩ := writeFile_kept listed
    -- the allow-list is written last, to a place that no artifact has
    have heldStill : ∀ a ∈ output.artifacts, t.tree.read (join input.settings.outputDir a.path) = .ok a.content := by
      intro a isArtifact
      refine keptList.read (held a isArtifact) fun sameFile => ?_
      exact allowList_apart paths _ _ (List.mem_map.2 ⟨a, isArtifact, List.mem_singleton.1 sameFile⟩)
    rw [kept.here] at keptList
    refine ⟨AllowList.isWritten_fileText output.allowList, writesBelow_of_kept ?_ ?_ ?_⟩
    · refine List.forall_mem_append.2 ⟨?_, List.forall_mem_singleton.2 isPlain_allowList⟩
      exact List.forall_mem_map.2 fun a isArtifact => (paths a isArtifact).1
    · rw [List.map_append, List.map_map]
      exact kept.trans keptList
    · exact List.forall_mem_append.2 ⟨List.forall_mem_map.2 heldStill, List.forall_mem_singleton.2 heldList⟩

/-- a process that cannot be translated -/
def unnamedBuild : BuildInput := { faultyInput with models := [unnamedWork "order"] }

/-- the hostile process, built for a runtime that no source can name -/
def unnameableBuild : BuildInput := { hostileBuild with settings := { crateName := "app", runtimeCrate := "fn" } }

/-- a tree with the allow-list of an earlier build -/
def earlierTree : Files.Tree where
  entries := [([".flowcanon"], .directory), ([".flowcanon", "generated"], .directory),
    ([".flowcanon", "generated", "reflection-config.json"], .file "[]")]

theorem unnamedBuild_fails : ∃ e t, unnamedBuild.run (fun _ => none) ⟨earlierTree, none⟩ = (.error e, t) ∧
    e.isEarly = true := by
  have fails : (unnamedBuild.artifacts (.asConfigured false)).toBool = false := by decide +kernel
  cases generated : unnamedBuild.artifacts (.asConfigured false) with
  | ok artifacts =>
    rw [generated] at fails
    cases fails
  | error e =>
    have isEarly : e.isEarly = true := @isEarly_of_run unnamedBuild.generation _ _ _ generated
    exact ⟨e, _, run_error_of_artifacts rfl generated, isEarly⟩

theorem unnameableBuild_fails : ∃ path reason t,
    unnameableBuild.run (fun _ => none) ⟨earlierTree, none⟩ = (.error (.compilation path reason), t) := by
  have makeable : unnameableBuild.canMake (.asConfigured false) earlierTree = true := by decide +kernel
  obtain ⟨artifacts, generated, writable⟩ := artifacts_of_canMake makeable
  obtain ⟨written, last, wrote, -⟩ := writes_of_canWrite writable ""
  have isModel : hostileProcess ∈ unnameableBuild.models := List.mem_cons_self
  obtain ⟨path, reason, refused⟩ := @run_refused unnameableBuild (fun _ => none) ⟨earlierTree, none⟩ _ _ _ rfl (by decide)
    isModel rfl generated (congrArg Prod.fst wrote)
  exact ⟨path, reason, _, Prod.ext refused rfl⟩

theorem run_writes_ends :
    (∃ e t, unnamedBuild.settings.compilerCheck = false ∧
      unnamedBuild.run (fun _ => none) ⟨earlierTree, none⟩ = (.error e, t) ∧ e.isEarly = true ∧
      t = ⟨earlierTree, none⟩) ∧
    (∃ path reason t, unnameableBuild.settings.compilerCheck = false ∧
      unnameableBuild.run (fun _ => none) ⟨earlierTree, none⟩ = (.error (.compilation path reason), t) ∧
      t.tree.content? (placeFrom [] ".flowcanon/generated/reflection-config.json") = some "[]" ∧
      ∃ gate artifacts, unnameableBuild.artifacts gate = .ok artifacts ∧
        earlierTree.WritesBelow ".flowcanon/generated" (artifacts.map Artifact.file) t.tree) ∧
    ∃ output t, hostileBuild.settings.compilerCheck = false ∧
      hostileBuild.run (fun _ => none) ⟨{}, none⟩ = (.ok output, t) ∧
      AllowList.IsWritten output.allowList output.allowList.fileText ∧
        Files.Tree.WritesBelow ".flowcanon/generated"
          (output.artifacts.map Artifact.file ++ [("reflection-config.json", output.allowList.fileText)]) {} t.tree := by
  obtain ⟨e, left, failed, isEarly⟩ := unnamedBuild_fails
  obtain ⟨path, reason, refusedState, refused⟩ := unnameableBuild_fails
  obtain ⟨output, written, built⟩ := hostileBuild_runs
  have unchanged : left = ⟨earlierTree, none⟩ := (run_writes rfl _ _ _).1 e failed isEarly
  obtain ⟨gate, artifacts, -, generated, wrote, kept⟩ :=
    (@run_writes unnameableBuild rfl _ _ _).2.1 path reason refused
  have earlier : earlierTree.content? (placeFrom [] ".flowcanon/generated/reflection-config.json") = some "[]" := by
    decide
  exact ⟨⟨e, left, rfl, failed, isEarly, unchanged⟩,
    ⟨path, reason, refusedState, rfl, refused, kept.trans earlier, gate, artifacts, generated, wrote⟩,
    output, written, rfl, built, (@run_writes hostileBuild rfl _ _ _).2.2 output built⟩

end BuildInput
end ProcessBuild
