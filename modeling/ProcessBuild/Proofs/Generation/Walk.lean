/-
The outcome of generation, told as a walk. The ids of the models are gone through in ascending order, each standing for
the first model that carries it; the walk ends at the first model that cannot be translated or whose file stem an
earlier id has taken. No other generator fails, and no other path is claimed twice, since the directories of the files
tell the kinds of generators apart.
- `walk_ok_iff`: the walk goes through exactly when every model is translated and the stems are distinct.
- `gather_walk`: gathering the files of processes is the walk.
- `distinct_paths`: the paths of the files of a build are distinct where the stems are.
- `run_discover_walk`: the outcome of generation.
-/
import Mathlib.Data.List.Forall2
import ProcessBuild.Proofs.Generation.Gathering
import ProcessBuild.Proofs.Generation.ModelOrder
import ProcessBuild.Proofs.Generation.Modules

namespace ProcessBuild.Generation

open Source

/-! ## The walk -/

/-- the models that the ids stand for: for each id in ascending order, as often as it occurs, the first model of it -/
def namedModels (input : GenerationInput) : List ProcessModel :=
  ((input.models.map (·.id)).mergeSort fun a b => a ≤ b).filterMap fun id => input.models.find? (·.id = id)

theorem namedModels_eq_filterMap (input : GenerationInput) :
    namedModels input = (sortedIds input.models).filterMap input.model? := rfl

/-- go through models, the ids before them given -/
def walk (input : GenerationInput) : List String → List ProcessModel → Except BuildError (List Artifact)
  | _, [] => .ok []
  | earlier, m :: rest =>
    match Translation.compileText m input.kinds input.runtimeCrate with
    | .error fault => .error (.translation m.id fault)
    | .ok content =>
      match earlier.find? fun id => fileStem id = fileStem m.id with
      | some id => .error (.collision ("processes/" ++ fileStem m.id ++ ".rs") ("process:" ++ id) ("process:" ++ m.id))
      | none =>
        (walk input (m.id :: earlier) rest).map fun files =>
          ⟨.source, "processes/" ++ fileStem m.id ++ ".rs", content⟩ :: files

/-- the file of a process: its translation -/
def IsProcessFile (input : GenerationInput) (m : ProcessModel) (file : Artifact) : Prop :=
  ∃ content, Translation.compileText m input.kinds input.runtimeCrate = .ok content ∧
    file = ⟨.source, "processes/" ++ fileStem m.id ++ ".rs", content⟩

/-- the artifacts after the files of processes, group by group: each group has a directory or a file of its own -/
def furtherGroups (input : GenerationInput) (e : Environment) (wantsRest : Bool) (models : List ProcessModel) :
    List (List Artifact) := [
  models.map fun m => ⟨.source, "events/" ++ fileStem m.id ++ "_events.rs", eventsSource input.runtime m⟩,
  if wantsRest then models.map fun m => ⟨.source, "rest/" ++ fileStem m.id ++ "_resource.rs", restSource input.runtime m⟩
    else [],
  if e.capabilities.contains "messaging" then [⟨.source, "messaging/initializer.rs", messagingSource input.runtime⟩]
    else [],
  if e.liveReload then [] else [⟨.source, "hot_reload_support.rs", hotReloadSource input.models⟩],
  [⟨.source, "lib.rs", text (crateRootTokens input.runtime (plannedModules input e wantsRest) (sortedIds input.models))⟩],
  [⟨.resource, "META-INF/processes.json", manifestText input.crateName input.models⟩]]

/-- the artifacts after the files of processes -/
def furtherArtifacts (input : GenerationInput) (e : Environment) (wantsRest : Bool) (models : List ProcessModel) :
    List Artifact := (furtherGroups input e wantsRest models).flatten

theorem find?_stem_eq_none {ids : List String} {stem : String} :
    (ids.find? fun id => fileStem id = stem) = none ↔ ∀ id ∈ ids, fileStem id ≠ stem := by
  simp only [List.find?_eq_none, decide_eq_true_eq, ne_eq]

/-- the stems of models are distinct and not taken when the first is not taken, and the others are not with it -/
theorem distinct_stems_cons_iff {earlier : List String} {m : ProcessModel} {rest : List ProcessModel} :
    ((m :: rest).map fun n => fileStem n.id).Nodup ∧ (∀ n ∈ m :: rest, ∀ id ∈ earlier, fileStem id ≠ fileStem n.id) ↔
      (∀ id ∈ earlier, fileStem id ≠ fileStem m.id) ∧ (rest.map fun n => fileStem n.id).Nodup ∧
        ∀ n ∈ rest, ∀ id ∈ m.id :: earlier, fileStem id ≠ fileStem n.id := by
  rw [List.map_cons, List.nodup_cons]
  constructor
  · rintro ⟨⟨fresh, distinct⟩, apart⟩
    obtain ⟨free, others⟩ := List.forall_mem_cons.1 apart
    refine ⟨free, distinct, fun n hn => List.forall_mem_cons.2 ⟨fun same => ?_, others n hn⟩⟩
    exact fresh (List.mem_map.2 ⟨n, hn, same.symm⟩)
  · rintro ⟨free, distinct, apart⟩
    refine ⟨⟨fun again => ?_, distinct⟩, List.forall_mem_cons.2 ⟨free, fun n hn id isEarlier => ?_⟩⟩
    · obtain ⟨n, hn, same⟩ := List.mem_map.1 again
      exact apart n hn m.id List.mem_cons_self same.symm
    · exact apart n hn id (List.mem_cons_of_mem m.id isEarlier)

/-- **The walk goes through** exactly when every model is translated and the stems are distinct. -/
theorem walk_ok_iff {input : GenerationInput} {earlier : List String} {models : List ProcessModel}
    {files : List Artifact} :
    walk input earlier models = .ok files ↔
      List.Forall₂ (IsProcessFile input) models files ∧ (models.map fun m => fileStem m.id).Nodup ∧
        ∀ m ∈ models, ∀ id ∈ earlier, fileStem id ≠ fileStem m.id := by
  induction models generalizing earlier files with
  | nil =>
    rw [walk, Except.ok.injEq, List.forall₂_nil_left_iff, eq_comm]
    exact ⟨fun h => ⟨h, List.nodup_nil, List.forall_mem_nil _⟩, And.left⟩
  | cons m rest ih =>
    rw [walk, distinct_stems_cons_iff, ← find?_stem_eq_none]
    -- a fault of the translation comes before a stem that is taken, as in the walk
    cases compiled : Translation.compileText m input.kinds input.runtimeCrate with
    | error fault =>
      refine ⟨fun h => (nomatch h), fun ⟨translated, _⟩ => ?_⟩
      obtain ⟨_, _, ⟨content, ok, -⟩, -, -⟩ := List.forall₂_cons_left_iff.1 translated
      rw [compiled] at ok
      cases ok
    | ok content =>
      dsimp only
      cases taken : earlier.find? fun id => fileStem id = fileStem m.id with
      | some id => exact ⟨fun h => (nomatch h), fun ⟨_, free, _⟩ => (nomatch free)⟩
      | none =>
        rw [map_eq_ok_iff]
        constructor
        · rintro ⟨others, walked, rfl⟩
          obtain ⟨translated, apart⟩ := ih.1 walked
          exact ⟨.cons ⟨content, compiled, rfl⟩ translated, rfl, apart⟩
        · rintro ⟨translated, -, apart⟩
          obtain ⟨_, others, ⟨_, ok, rfl⟩, translatedOthers, rfl⟩ := List.forall₂_cons_left_iff.1 translated
          obtain rfl := Except.ok.inj (compiled.symm.trans ok)
          exact ⟨others, ih.2 ⟨translatedOthers, apart⟩, rfl⟩

/-! ## Gathering the files of processes -/

/-- the claims of the processes of ids, the last one first -/
def processClaims (ids : List String) : List (String × String) := ids.map fun id => (processPath id, "process:" ++ id)

/-- what the generator of the file of a process comes to, under its name -/
def processOutput (input : GenerationInput) (m : ProcessModel) : String × Except BuildError (List Artifact) :=
  ("process:" ++ m.id, ((Translation.compileText m input.kinds input.runtimeCrate).mapError (.translation m.id)).map
    fun content => [⟨.source, processPath m.id, content⟩])

theorem processPath_inj {id other : String} : processPath id = processPath other ↔ fileStem id = fileStem other := by
  unfold processPath
  rw [String.append_left_inj, String.append_right_inj]

theorem find?_processClaims (ids : List String) (id : String) :
    (processClaims ids).find? (·.1 = processPath id) =
      (ids.find? fun other => fileStem other = fileStem id).map fun other => (processPath other, "process:" ++ other) := by
  rw [processClaims, List.find?_map]
  simp only [Function.comp_def, processPath_inj]

/-- the file of a process is claimed unless an earlier id has its stem -/
theorem claim_process (earlier : List String) (id content : String) :
    claim ("process:" ++ id) (processClaims earlier) [⟨.source, processPath id, content⟩] =
      match earlier.find? fun other => fileStem other = fileStem id with
      | some other => .error (.collision (processPath id) ("process:" ++ other) ("process:" ++ id))
      | none => .ok (processClaims (id :: earlier)) := by
  rw [claim, find?_processClaims]
  cases earlier.find? fun other => fileStem other = fileStem id with
  | some other => rfl
  | none => rfl

theorem map_bind_append (file : Artifact) (first second : Except BuildError (List Artifact)) :
    (first.bind fun files => second.map (files ++ ·)).map ([file] ++ ·) =
      (first.map (file :: ·)).bind fun files => second.map (files ++ ·) := by
  cases first with
  | error e => rfl
  | ok files =>
    cases second with
    | error e => rfl
    | ok others => rfl

/-- **Gathering the files of processes** is the walk, whatever is gathered after them. -/
theorem gather_walk (input : GenerationInput) (earlier : List String) (models : List ProcessModel)
    (back : List (String × Except BuildError (List Artifact))) :
    gather (processClaims earlier) (models.map (processOutput input) ++ back) =
      (walk input earlier models).bind fun files =>
        (gather (processClaims ((models.map (·.id)).reverse ++ earlier)) back).map (files ++ ·) := by
  -- the claims made so far are those of the ids before, the last one first
  induction models generalizing earlier with
  | nil =>
    show gather (processClaims earlier) back = (gather (processClaims earlier) back).map id
    cases gather (processClaims earlier) back with
    | error e => rfl
    | ok files => rfl
  | cons m rest ih =>
    rw [walk, List.map_cons, List.cons_append, processOutput]
    cases Translation.compileText m input.kinds input.runtimeCrate with
    | error fault => rfl
    | ok content =>
      have claimed := claim_process earlier m.id content
      have ids : ((m :: rest).map (·.id)).reverse ++ earlier = (rest.map (·.id)).reverse ++ m.id :: earlier := by
        rw [List.map_cons, List.reverse_cons, List.append_assoc, List.singleton_append]
      cases taken : earlier.find? fun id => fileStem id = fileStem m.id with
      | some id =>
        rw [taken] at claimed
        exact gather_cons_of_refused claimed
      | none =>
        rw [taken] at claimed
        refine (gather_cons_of_claimed claimed).trans ?_
        rw [ih, ids, map_bind_append]
        rfl

/-! ## The generators of a build -/

/-- the generators after those of the files of processes, in the order of the groups of their artifacts -/
def furtherGenerators (input : GenerationInput) (e : Environment) (wantsRest : Bool) : List Generator :=
  let ids := sortedIds input.models
  ids.map Generator.events ++ ((if wantsRest then ids.map Generator.rest else []) ++
    ((if e.capabilities.contains "messaging" then [Generator.messaging] else []) ++
      ((if e.liveReload then [] else [Generator.hotReload]) ++
        [Generator.crateRoot ((discover input.models e wantsRest).filterMap Generator.moduleSource?) ids, .manifest])))

theorem map_sortedIds {input : GenerationInput} {β : Type} {f : String → β} {g : ProcessModel → β}
    (h : ∀ id m, input.model? id = some m → f id = g m) : (sortedIds input.models).map f = (namedModels input).map g := by
  rw [namedModels_eq_filterMap, List.map_filterMap, ← List.filterMap_eq_map]
  refine List.filterMap_congr fun id isId => ?_
  obtain ⟨m, isModel, rfl⟩ := mem_sortedIds.1 isId
  obtain ⟨first, found⟩ := GenerationInput.exists_model? isModel
  rw [found, Option.map_some, ← h _ _ found]
  rfl

theorem ids_namedModels (input : GenerationInput) : (namedModels input).map (·.id) = sortedIds input.models := by
  rw [← map_sortedIds fun id m found => (GenerationInput.id_of_model? found).symm]
  exact List.map_id _

theorem output_process {input : GenerationInput} {id : String} {m : ProcessModel} (found : input.model? id = some m) :
    ((Generator.process id).name, (Generator.process id).output input) = processOutput input m := by
  obtain rfl := GenerationInput.id_of_model? found
  simp only [Generator.name, Generator.output, ofModel_eq found]
  rfl

theorem discover_eq (input : GenerationInput) (e : Environment) (wantsRest : Bool) :
    discover input.models e wantsRest = (sortedIds input.models).map .process ++ furtherGenerators input e wantsRest := by
  have noModule : ∀ sources ids, [Generator.crateRoot sources ids, .manifest].filterMap Generator.moduleSource? = [] :=
    fun _ _ => rfl
  unfold furtherGenerators discover
  simp only [List.filterMap_append, noModule, List.append_nil, List.append_assoc]
  rfl

theorem outputs_ofModel {input : GenerationInput} {generator : String → Generator} {path : String → String}
    {f : ProcessModel → String}
    (h : ∀ id, (generator id).output input = Generator.ofModel input id (path id) fun m => .ok (f m)) :
    ((sortedIds input.models).map generator).map (·.output input) =
      ((namedModels input).map fun m => ⟨.source, path m.id, f m⟩).map fun a => .ok [a] := by
  rw [List.map_map, List.map_map]
  refine map_sortedIds fun id m found => ?_
  obtain rfl := GenerationInput.id_of_model? found
  simp only [Function.comp_def, h, ofModel_eq found]
  rfl

/-- the outputs of the generators after those of the files of processes: none of them fails -/
theorem outputs_further (input : GenerationInput) (e : Environment) (wantsRest : Bool) :
    (furtherGenerators input e wantsRest).map (·.output input) =
      (furtherArtifacts input e wantsRest (namedModels input)).map fun a => .ok [a] := by
  have events := @outputs_ofModel input .events eventsPath (eventsSource input.runtime) fun _ => rfl
  have rest := @outputs_ofModel input .rest restPath (restSource input.runtime) fun _ => rfl
  have root : (Generator.crateRoot ((discover input.models e wantsRest).filterMap Generator.moduleSource?)
      (sortedIds input.models)).output input = .ok [⟨.source, "lib.rs",
        text (crateRootTokens input.runtime (plannedModules input e wantsRest) (sortedIds input.models))⟩] := by
    rw [Generator.output, crateRootSource_eq (moduleSources_named _)]
    rfl
  unfold furtherGenerators furtherArtifacts furtherGroups
  simp only [List.map_append, List.flatten_cons, List.flatten_nil, List.append_nil]
  refine congrArg₂ _ events (congrArg₂ _ ?_ (congrArg₂ _ ?_ (congrArg₂ _ ?_ ?_)))
  · cases wantsRest with
    | false => rfl
    | true => exact rest
  · cases e.capabilities.contains "messaging" with
    | false => rfl
    | true => rfl
  · cases e.liveReload with
    | false => rfl
    | true => rfl
  · exact congrArg₂ List.cons root rfl

/-! ## Distinct paths -/

/-- the paths of the files of a build by the characters that they start with -/
def pathGroups (e : Environment) (wantsRest : Bool) (stems : List String) : List (Char × List String) := [
  ('p', stems.map fun stem => "processes/" ++ stem ++ ".rs"),
  ('e', stems.map fun stem => "events/" ++ stem ++ "_events.rs"),
  ('r', if wantsRest then stems.map fun stem => "rest/" ++ stem ++ "_resource.rs" else []),
  ('m', if e.capabilities.contains "messaging" then ["messaging/initializer.rs"] else []),
  ('h', if e.liveReload then [] else ["hot_reload_support.rs"]),
  ('l', ["lib.rs"]),
  ('M', ["META-INF/processes.json"])]

theorem nodup_pathGroups {stems : List String} (distinct : stems.Nodup) (e : Environment) (wantsRest : Bool) :
    ((pathGroups e wantsRest stems).flatMap Prod.snd).Nodup := by
  have heads : ['p', 'e', 'r', 'm', 'h', 'l', 'M'].Nodup := by decide
  refine nodup_groups heads ?_
  simp only [pathGroups, List.forall_mem_cons]
  exact ⟨.around distinct rfl, .around distinct rfl, .ite (.around distinct rfl) (.none _), .ite (.single rfl) (.none _),
    .ite (.none _) (.single rfl), .single rfl, .single rfl, List.forall_mem_nil _⟩

theorem paths_processes {input : GenerationInput} {models : List ProcessModel} {files : List Artifact}
    (translated : List.Forall₂ (IsProcessFile input) models files) :
    files.map Artifact.path = models.map fun m => processPath m.id := by
  induction translated with
  | nil => rfl
  | cons file _ ih =>
    obtain ⟨content, -, rfl⟩ := file
    rw [List.map_cons, List.map_cons, ih]
    rfl

theorem paths_further (input : GenerationInput) (e : Environment) (wantsRest : Bool) (models : List ProcessModel) :
    (furtherArtifacts input e wantsRest models).map Artifact.path =
      ((pathGroups e wantsRest (models.map fun m => fileStem m.id)).drop 1).flatMap Prod.snd := by
  rw [furtherArtifacts, List.map_flatten, List.flatMap_def]
  refine congrArg List.flatten ?_
  simp only [furtherGroups, pathGroups, List.map_cons, List.map_nil, List.drop_succ_cons, List.drop_zero, List.map_map,
    Function.comp_def, apply_ite (List.map Artifact.path)]

theorem paths_artifacts {input : GenerationInput} {models : List ProcessModel} {files : List Artifact}
    (translated : List.Forall₂ (IsProcessFile input) models files) (e : Environment) (wantsRest : Bool) :
    (files ++ furtherArtifacts input e wantsRest models).map Artifact.path =
      (pathGroups e wantsRest (models.map fun m => fileStem m.id)).flatMap Prod.snd := by
  rw [List.map_append, paths_processes translated, paths_further, pathGroups, List.flatMap_cons, List.map_map]
  rfl

/-- **The paths of the files of a build** are distinct when the stems are. -/
theorem distinct_paths {input : GenerationInput} {models : List ProcessModel} {files : List Artifact}
    (translated : List.Forall₂ (IsProcessFile input) models files)
    (distinct : (models.map fun m => fileStem m.id).Nodup) (e : Environment) (wantsRest : Bool) :
    ((files ++ furtherArtifacts input e wantsRest models).map Artifact.path).Nodup := by
  rw [paths_artifacts translated]
  exact nodup_pathGroups distinct e wantsRest

/-! ## The outcome -/

/-- distinct ids stand for all the models, in the order of their ids -/
theorem namedModels_eq {input : GenerationInput} (distinct : (sortedIds input.models).Nodup) :
    namedModels input = modelsById input.models := by
  have distinctIds : (input.models.map (·.id)).Nodup := (List.mergeSort_perm _ _).nodup_iff.1 distinct
  rw [namedModels_eq_filterMap, sortedIds_eq, List.filterMap_map]
  refine (List.filterMap_congr fun m isModel => ?_).trans List.filterMap_some
  exact (GenerationInput.model?_eq_some_iff distinctIds).2 ⟨mem_modelsById.1 isModel, rfl⟩

theorem distinct_ids {models : List ProcessModel} (h : (models.map fun m => fileStem m.id).Nodup) :
    (models.map (·.id)).Nodup := by
  have stems : (models.map (·.id)).map fileStem = models.map fun m => fileStem m.id := List.map_map
  rw [← stems] at h
  exact h.of_map

theorem distinct_stems {models : List ProcessModel} (h : (models.map fun m => processPath m.id).Nodup) :
    (models.map fun m => fileStem m.id).Nodup := by
  have paths : (models.map fun m => fileStem m.id).map (fun stem => "processes/" ++ stem ++ ".rs") =
      models.map fun m => processPath m.id := List.map_map
  rw [← paths] at h
  exact h.of_map

theorem outputs_discover (input : GenerationInput) (e : Environment) (wantsRest : Bool) :
    ((discover input.models e wantsRest).map fun g => (g.name, g.output input)) =
      (namedModels input).map (processOutput input) ++
        (furtherGenerators input e wantsRest).map fun g => (g.name, g.output input) := by
  rw [discover_eq, List.map_append, List.map_map]
  exact congrArg (· ++ _) (map_sortedIds fun id m found => output_process found)

theorem usable_discover (input : GenerationInput) (e : Environment) (wantsRest : Bool) :
    ((discover input.models e wantsRest).map fun g => (g.name, g.output input)).find? isUnusableName = none := by
  refine List.find?_eq_none.2 fun o isOutput unusable => ?_
  rw [outputs_discover] at isOutput
  rcases List.mem_append.1 isOutput with process | further
  · obtain ⟨m, -, rfl⟩ := List.mem_map.1 process
    unfold processOutput at unusable
    cases compiled : Translation.compileText m input.kinds input.runtimeCrate with
    | error fault =>
      rw [compiled] at unusable
      cases unusable
    | ok content =>
      rw [compiled] at unusable
      cases unusable
  · obtain ⟨g, isFurther, rfl⟩ := List.mem_map.1 further
    have made := List.mem_map_of_mem (f := (·.output input)) isFurther
    rw [outputs_further] at made
    obtain ⟨a, -, ok⟩ := List.mem_map.1 made
    rw [← ok] at unusable
    cases unusable

/-- once the files of processes are gathered, so are the others -/
theorem gather_further {input : GenerationInput} {files : List Artifact}
    (translated : List.Forall₂ (IsProcessFile input) (namedModels input) files)
    (distinct : ((namedModels input).map fun m => fileStem m.id).Nodup) (e : Environment) (wantsRest : Bool) :
    gather (processClaims ((namedModels input).map (·.id)).reverse)
        ((furtherGenerators input e wantsRest).map fun g => (g.name, g.output input)) =
      .ok (furtherArtifacts input e wantsRest (namedModels input)) := by
  have paths := distinct_paths translated distinct e wantsRest
  rw [List.map_append, List.nodup_append, paths_processes translated] at paths
  obtain ⟨-, distinctFurther, apart⟩ := paths
  refine gather_ok_iff.2 ⟨(furtherArtifacts input e wantsRest (namedModels input)).map fun a => [a], ?_, ?_,
    distinctFurther, ?_⟩
  · rw [List.map_map, List.map_map]
    exact outputs_further input e wantsRest
  · rw [← List.flatMap_def, List.flatMap_singleton']
  · intro a isFurther owner taken
    obtain ⟨id, isId, rfl⟩ := List.mem_map.1 taken
    obtain ⟨m, isModel, rfl⟩ := List.mem_map.1 (List.mem_reverse.1 isId)
    exact apart (processPath m.id) (List.mem_map.2 ⟨m, isModel, rfl⟩) a.path (List.mem_map.2 ⟨a, isFurther, rfl⟩)

/-- generation comes to the walk, and to the other files after it -/
theorem run_discover_eq (input : GenerationInput) (e : Environment) (wantsRest : Bool) :
    run (discover input.models e wantsRest) input =
      (walk input [] (namedModels input)).map (· ++ furtherArtifacts input e wantsRest (namedModels input)) := by
  have gathered := gather_walk input [] (namedModels input)
    ((furtherGenerators input e wantsRest).map fun g => (g.name, g.output input))
  dsimp only [run]
  rw [usable_discover, outputs_discover]
  refine gathered.trans ?_
  cases walked : walk input [] (namedModels input) with
  | error failure => rfl
  | ok files =>
    obtain ⟨translated, distinct, -⟩ := walk_ok_iff.1 walked
    show (gather (processClaims (_ ++ [])) _).map (files ++ ·) = _
    rw [List.append_nil, gather_further translated distinct]
    rfl

/-- generation succeeds when each model is translated and all paths are distinct -/
theorem run_discover_ok_iff {input : GenerationInput} {e : Environment} {wantsRest : Bool} {artifacts : List Artifact} :
    run (discover input.models e wantsRest) input = .ok artifacts ↔
      ∃ files, List.Forall₂ (IsProcessFile input) (modelsById input.models) files ∧
        artifacts = files ++ furtherArtifacts input e wantsRest (modelsById input.models) ∧
        (artifacts.map Artifact.path).Nodup := by
  rw [run_discover_eq, map_eq_ok_iff]
  constructor
  · rintro ⟨files, walked, rfl⟩
    obtain ⟨translated, distinct, -⟩ := walk_ok_iff.1 walked
    have named := namedModels_eq (ids_namedModels input ▸ distinct_ids distinct)
    have paths := distinct_paths translated distinct e wantsRest
    rw [named] at translated paths ⊢
    exact ⟨files, translated, rfl, paths⟩
  · rintro ⟨files, translated, rfl, paths⟩
    rw [List.map_append, List.nodup_append, paths_processes translated] at paths
    have distinct := distinct_stems paths.1
    have named := namedModels_eq (sortedIds_eq input.models ▸ distinct_ids distinct)
    rw [named]
    exact ⟨files, walk_ok_iff.2 ⟨translated, distinct, fun _ _ _ h => nomatch h⟩, rfl⟩

/-- the ids of what is generated ascend strictly -/
theorem ascending_of_run {input : GenerationInput} {e : Environment} {wantsRest : Bool} {artifacts : List Artifact}
    (generated : run (discover input.models e wantsRest) input = .ok artifacts) :
    ((modelsById input.models).map (·.id)).Pairwise (· < ·) := by
  obtain ⟨files, translated, rfl, paths⟩ := run_discover_ok_iff.1 generated
  rw [List.map_append, List.nodup_append, paths_processes translated] at paths
  have inOrder := ascending_sortedIds input.models
  rw [sortedIds_eq] at inOrder
  refine inOrder.imp₂ (fun a b le ne => ?_) (distinct_ids (distinct_stems paths.1))
  exact NameMap.lt_of_not_lt_of_ne le ne.symm

/-- **The outcome of generation**: the walk over the ids in ascending order decides it. Where the walk ends early, its
failure is that of the build; where it goes through, each model has a file of its own, the other files follow, and all
paths are distinct. -/
theorem run_discover_walk (input : GenerationInput) (e : Environment) (wantsRest : Bool) :
    run (discover input.models e wantsRest) input =
        (walk input [] (namedModels input)).map (· ++ furtherArtifacts input e wantsRest (namedModels input)) ∧
      ∀ artifacts, run (discover input.models e wantsRest) input = .ok artifacts ↔
        let models := input.models.mergeSort fun m n => m.id ≤ n.id
        ∃ files, List.Forall₂ (IsProcessFile input) models files ∧
          artifacts = files ++ furtherArtifacts input e wantsRest models ∧ (artifacts.map Artifact.path).Nodup :=
  ⟨run_discover_eq input e wantsRest, fun _ => run_discover_ok_iff⟩

end ProcessBuild.Generation
