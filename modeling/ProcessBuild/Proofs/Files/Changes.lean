/-
What file operations change. Making directories adds directories where nothing was and leaves every file alone, also when
it fails halfway; writing a file changes the file that its path leads to and no other one. What is left alone by each
operation is left alone by all of them in a row, so files that are written at different places all hold their texts in
the end.
- `Tree.Kept`: what a change to a tree leaves alone.
- `keeps_ensureDirectories`: making directories leaves all files alone.
- `writeFile_kept`, `writeFileDeep_kept`: writing a file.
- `writeAll_kept`: writing files at different places.
- `Tree.WritesBelow`: files that are written below a directory, by their paths from there.
-/
import ProcessBuild.Proofs.Files.Places

namespace ProcessBuild.Files

/-! ## What is left alone -/

namespace Tree

variable {before between after t t' : Tree} {place : Location} {path content : String}

/-- what a change to a tree leaves alone: every directory, and every file but those at some places -/
structure Kept (written : List Location) (before after : Tree) : Prop extends Within before after where
  files : ∀ place, place ∉ written → after.content? place = before.content? place

theorem Kept.refl (written : List Location) (t : Tree) : Kept written t t := ⟨⟨rfl, fun _ => id⟩, fun _ _ => rfl⟩

theorem Kept.trans {first second : List Location} (h : Kept first before between) (k : Kept second between after) :
    Kept (first ++ second) before after where
  here := k.here.trans h.here
  directories := fun place isDirectory => k.directories place (h.directories place isDirectory)
  files := by
    intro place others
    obtain ⟨notFirst, notSecond⟩ := not_or.1 fun either => others (List.mem_append.2 either)
    exact (k.files place notSecond).trans (h.files place notFirst)

theorem ne_nil_of_entryAt (h : t.entryAt place ≠ some .directory) : place ≠ [] := by
  rintro rfl
  exact h rfl

/-- something put where no directory is leaves everything else alone -/
theorem kept_put (free : t.entryAt place ≠ some .directory) (entry : Entry) : Kept [place] t (t.put place entry) where
  here := rfl
  directories := by
    intro other isDirectory
    have apart : other ≠ place := by
      rintro rfl
      exact free isDirectory
    rwa [entryAt_put _ _ _ _ (ne_nil_of_entryAt free), if_neg apart]
  files := by
    intro other apart
    unfold content?
    rw [entryAt_put _ _ _ _ (ne_nil_of_entryAt free), if_neg (List.mem_singleton.not.1 apart)]

/-- a directory put where nothing is leaves every file alone -/
theorem kept_putDirectory (free : t.entryAt place = none) : Kept [] t (t.put place .directory) := by
  have notDirectory : t.entryAt place ≠ some .directory := by
    rw [free]
    exact nofun
  have kept := kept_put notDirectory .directory
  -- the place itself held no file before and holds none now
  refine ⟨kept.toWithin, fun other _ => ?_⟩
  by_cases same : other = place
  · unfold content?
    rw [entryAt_put _ _ _ _ (ne_nil_of_entryAt notDirectory), if_pos same, same, free]
  · exact kept.files other (List.mem_singleton.not.2 same)

/-- the text of a file is what stands at the place that its path leads to -/
theorem read_ok_iff : t.read path = .ok content ↔ ∃ place, t.locate path = .ok place ∧ t.content? place = some content := by
  unfold Tree.read
  rw [bind_eq_ok_iff]
  refine exists_congr fun place => and_congr_right fun _ => ?_
  unfold content?
  cases t.entryAt place with
  | none => exact ⟨nofun, nofun⟩
  | some entry =>
    cases entry with
    | directory => exact ⟨nofun, nofun⟩
    | file text => exact ⟨fun h => congrArg some (Except.ok.inj h), fun h => congrArg Except.ok (Option.some.inj h)⟩

/-- **A file** that is left alone holds the text that it held. -/
theorem Kept.read {written : List Location} (kept : Kept written t t') (held : t.read path = .ok content)
    (apart : placeFrom t.here path ∉ written) : t'.read path = .ok content := by
  obtain ⟨place, located, text⟩ := read_ok_iff.1 held
  have same := locate_eq located
  subst same
  exact read_ok_iff.2 ⟨_, locate_mono located kept.toWithin, (kept.files _ apart).trans text⟩

end Tree

open Files.Tree

/-! ## Directories -/

/-- an operation leaves all files alone, whether it succeeds or fails -/
def Keeps {α : Type} (action : Action α) : Prop := ∀ t, Kept [] t (action t).2

namespace Keeps

variable {α β : Type}

theorem pure (a : α) : Keeps (Pure.pure a : Action α) := fun t => Kept.refl [] t

theorem throw (fault : Fault) : Keeps (MonadExcept.throw fault : Action α) := fun t => Kept.refl [] t

theorem get : Keeps (MonadState.get : Action Tree) := fun t => Kept.refl [] t

theorem bind {first : Action α} {next : α → Action β} (h : Keeps first) (k : ∀ a, Keeps (next a)) :
    Keeps (first >>= next) :=
  bind_relates Kept.trans h k

theorem tryCatch {action : Action α} {handle : Fault → Action α} (h : Keeps action) (k : ∀ fault, Keeps (handle fault)) :
    Keeps (MonadExcept.tryCatch action handle) := by
  intro t
  have kept := h t
  rw [tryCatch_apply]
  rcases ran : action t with ⟨fault | a, between⟩
  · rw [ran] at kept
    exact kept.trans (k fault between)
  · rwa [ran] at kept

end Keeps

/-- an operation at the slot of a path fails as the slot does -/
theorem atSlot_run {α : Type} (path : String) (action : Tree → Slot → Action α) (t : Tree) :
    (do
      let t ← get
      let slot ← t.slot path
      action t slot : Action α) t = match t.slot path with
        | .error fault => (.error fault, t)
        | .ok slot => action t slot t := by
  have lifted : ∀ e : Except Fault Slot, (liftM e : Action Slot) t = (e, t) := by
    intro e
    cases e with
    | error fault => rfl
    | ok slot => rfl
  have current : (get : Action Tree) t = (.ok t, t) := rfl
  simp only [bind_apply, current, lifted]
  cases t.slot path with
  | error fault => rfl
  | ok slot => rfl

theorem keeps_makeDirectory (path : String) : Keeps (makeDirectory path) := by
  intro t
  unfold makeDirectory
  rw [atSlot_run]
  cases t.slot path with
  | error fault => exact Kept.refl [] t
  | ok slot =>
    cases slot with
    | directory => exact Kept.refl [] t
    | place place slash =>
      dsimp only
      cases free : t.entryAt place with
      | some entry => exact Kept.refl [] t
      | none => exact kept_putDirectory free

theorem keeps_ensureDirectory (path : String) : Keeps (ensureDirectory path) := by
  refine (keeps_makeDirectory path).tryCatch fun fault => Keeps.get.bind fun t => ?_
  split
  · exact Keeps.pure ()
  · exact Keeps.throw fault

theorem keeps_ensureDirectoriesFrom (fuel : Nat) (path : String) : Keeps (ensureDirectoriesFrom fuel path) := by
  induction fuel generalizing path with
  | zero => exact Keeps.throw _
  | succ fuel ih =>
    unfold ensureDirectoriesFrom
    split
    · exact Keeps.pure ()
    · refine (keeps_ensureDirectory path).tryCatch fun fault => ?_
      split
      · exact (ih _).bind fun _ => keeps_ensureDirectory path
      · exact Keeps.throw _

/-- **Making directories** leaves all files alone. -/
theorem keeps_ensureDirectories (path : String) : Keeps (ensureDirectories path) := keeps_ensureDirectoriesFrom _ path

/-! ## Files -/

section Writing

variable {t t' : Tree} {path content : String}

theorem writeFile_run (path content : String) (t : Tree) :
    writeFile path content t = match t.slot path with
      | .error fault => (.error fault, t)
      | .ok .directory => (.error .isDirectory, t)
      | .ok (.place place slash) =>
        if slash || t.entryAt place = some .directory then (.error .isDirectory, t)
        else (.ok (), t.put place (.file content)) := by
  unfold writeFile
  rw [atSlot_run]
  cases t.slot path with
  | error fault => rfl
  | ok slot =>
    cases slot with
    | directory => rfl
    | place place slash =>
      dsimp only
      split
      · rfl
      · rfl

/-- whether a file can be written does not depend on what is written -/
theorem writeFile_toBool (path content other : String) (t : Tree) :
    (writeFile path content t).1.toBool = (writeFile path other t).1.toBool := by
  rw [writeFile_run, writeFile_run]
  cases t.slot path with
  | error fault => rfl
  | ok slot =>
    cases slot with
    | directory => rfl
    | place place slash =>
      dsimp only
      split
      · rfl
      · rfl

/-- **A file that is written** holds its text, and every other file is left alone. -/
theorem writeFile_kept (h : writeFile path content t = (.ok (), t')) :
    Kept [placeFrom t.here path] t t' ∧ t'.read path = .ok content := by
  rw [writeFile_run] at h
  cases found : t.slot path with
  | error fault =>
    rw [found] at h
    cases h
  | ok slot =>
    rw [found] at h
    cases slot with
    | directory => cases h
    | place place slash =>
      dsimp only at h
      split at h
      · cases h
      · rename_i free
        obtain rfl := (Prod.mk.inj h).2
        obtain ⟨noSlash, notDirectory⟩ : slash = false ∧ t.entryAt place ≠ some .directory := by simpa using free
        subst noSlash
        have located := slot_ok found
        have kept := kept_put notDirectory (.file content)
        -- the write may add entries, so the path is located anew; it leads to the same place
        rw [← locate_eq located]
        refine ⟨kept, read_ok_iff.2 ⟨place, locate_mono located kept.toWithin, ?_⟩⟩
        unfold content?
        rw [entryAt_put _ _ _ _ (ne_nil_of_entryAt notDirectory), if_pos rfl]

theorem writeFileDeep_kept (h : writeFileDeep path content t = (.ok (), t')) :
    Kept [placeFrom t.here path] t t' ∧ t'.read path = .ok content := by
  unfold writeFileDeep at h
  cases around : parent? path with
  | none =>
    rw [around] at h
    exact writeFile_kept h
  | some parent =>
    rw [around] at h
    obtain ⟨_, between, made, written⟩ := bind_ok_iff.1 h
    have directories := keeps_ensureDirectories parent t
    rw [made] at directories
    obtain ⟨kept, held⟩ := writeFile_kept written
    rw [directories.here] at kept
    exact ⟨directories.trans kept, held⟩

/-- **Files that are written one after the other**, at different places, all hold their texts in the end, and every other
file is left alone. -/
theorem writeAll_kept {α : Type} {path content : α → String} {l : List α}
    (h : (l.forM fun a => writeFileDeep (path a) (content a)) t = (.ok (), t'))
    (distinct : (l.map fun a => placeFrom t.here (path a)).Nodup) :
    Kept (l.map fun a => placeFrom t.here (path a)) t t' ∧ ∀ a ∈ l, t'.read (path a) = .ok (content a) := by
  induction l generalizing t with
  | nil =>
    obtain ⟨-, rfl⟩ := pure_ok_iff.1 h
    exact ⟨Kept.refl _ _, List.forall_mem_nil _⟩
  | cons first rest ih =>
    change (writeFileDeep (path first) (content first) >>= fun _ => rest.forM fun a =>
      writeFileDeep (path a) (content a)) t = _ at h
    obtain ⟨_, between, written, later⟩ := bind_ok_iff.1 h
    obtain ⟨kept, held⟩ := writeFileDeep_kept written
    obtain ⟨apart, distinctRest⟩ := List.nodup_cons.1 distinct
    have here := kept.here
    rw [← here] at distinctRest apart
    obtain ⟨keptRest, heldRest⟩ := ih later distinctRest
    -- the other files are at other places, so the first one still holds its text after them
    have heldFirst : t'.read (path first) = .ok (content first) := keptRest.read held apart
    rw [here] at keptRest
    exact ⟨kept.trans keptRest, List.forall_mem_cons.2 ⟨heldFirst, heldRest⟩⟩

end Writing

/-! ## Files below a directory -/

section Below

variable {before between after : Tree} {directory path content : String} {files : List (String × String)}

/-- files are written below a directory: each one is found at the place with the names of its path below the place of the
directory and holds its text there, no other file is changed, and no directory goes -/
structure Tree.WritesBelow (directory : String) (files : List (String × String)) (before after : Tree) : Prop where
  placed : ∀ f ∈ files, after.locate (join directory f.1) = .ok (placeFrom before.here directory ++ names f.1)
  held : ∀ f ∈ files, after.read (join directory f.1) = .ok f.2
  others : ∀ place, (∀ f ∈ files, place ≠ placeFrom before.here directory ++ names f.1) →
    after.content? place = before.content? place
  directories : ∀ place, before.entryAt place = some .directory → after.entryAt place = some .directory

/-- files of plain paths that hold their texts are written below the directory when all else is left alone -/
theorem writesBelow_of_kept (plain : ∀ f ∈ files, IsPlain f.1)
    (kept : Kept (files.map fun f => placeFrom before.here (join directory f.1)) before after)
    (held : ∀ f ∈ files, after.read (join directory f.1) = .ok f.2) : before.WritesBelow directory files after where
  placed := by
    intro f isFile
    obtain ⟨place, located, -⟩ := read_ok_iff.1 (held f isFile)
    have found := locate_eq located
    rw [kept.here, placeFrom_plain (plain f isFile)] at found
    rw [located, found]
  held := held
  others := by
    intro place apart
    refine kept.files place fun written => ?_
    obtain ⟨f, isFile, rfl⟩ := List.mem_map.1 written
    exact apart f isFile (placeFrom_plain (plain f isFile) _ _)
  directories := kept.directories

end Below

end ProcessBuild.Files
