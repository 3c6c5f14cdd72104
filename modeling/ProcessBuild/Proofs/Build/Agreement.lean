/-
The crate root, the manifest and the files of a build agree. They are made by generators that know nothing of each other
and name the files, modules and types of processes on their own; in a build that succeeds they name the same ones. The
crate root and the manifest are taken as what is read from their texts.
- `Agrees`: what a build has to do with its crate root and its manifest.
- `agrees_of_run`: every successful build agrees.
-/
import ProcessBuild.Proofs.Build.Stages
import ProcessBuild.Proofs.Generation.CrateRootText
import ProcessBuild.Proofs.Generation.Walk
import ProcessBuild.Proofs.Json.WrittenText
import ProcessBuild.Proofs.Process.Fields
import ProcessBuild.Proofs.Source.Scope
import ProcessBuild.Proofs.TypeIndex.Growth

namespace ProcessBuild

open Source Generation Json

namespace Generation

/-- the artifacts of a build before the crate root -/
def moduleArtifacts (input : GenerationInput) (e : Environment) (wantsRest : Bool) (files : List Artifact)
    (models : List ProcessModel) : List Artifact := files ++ ((furtherGroups input e wantsRest models).take 4).flatten

variable {input : GenerationInput} {e : Environment} {wantsRest : Bool} {models : List ProcessModel}
  {files : List Artifact}

theorem artifacts_eq : files ++ furtherArtifacts input e wantsRest models =
    moduleArtifacts input e wantsRest files models ++ ((furtherGroups input e wantsRest models).drop 4).flatten := by
  rw [moduleArtifacts, furtherArtifacts, List.append_assoc, ← List.flatten_append, List.take_append_drop]

theorem crateRoot_mem (files : List Artifact) :
    ⟨.source, Source.crateRoot, text (crateRootTokens input.runtime (plannedModules input e wantsRest)
      (sortedIds input.models))⟩ ∈ files ++ furtherArtifacts input e wantsRest models := by
  rw [artifacts_eq]
  exact List.mem_append_right _ List.mem_cons_self

theorem isSource_moduleArtifacts (translated : List.Forall₂ (IsProcessFile input) models files) :
    ∀ a ∈ moduleArtifacts input e wantsRest files models, a.kind = .source := by
  have processes : ∀ a ∈ files, a.kind = .source := by
    intro a isFile
    obtain ⟨_, -, _, -, rfl⟩ := exists_of_mem_right translated isFile
    rfl
  have further : ∀ group ∈ (furtherGroups input e wantsRest models).take 4, ∀ a ∈ group, a.kind = .source := by
    simp only [furtherGroups, List.take_succ_cons, List.take_zero, List.forall_mem_cons]
    refine ⟨List.forall_mem_map.2 fun _ _ => rfl, ?_, ?_, ?_, List.forall_mem_nil _⟩
    · split
      · exact List.forall_mem_map.2 fun _ _ => rfl
      · exact List.forall_mem_nil _
    · split
      · exact List.forall_mem_singleton.2 rfl
      · exact List.forall_mem_nil _
    · split
      · exact List.forall_mem_nil _
      · exact List.forall_mem_singleton.2 rfl
  intro a isArtifact
  rcases List.mem_append.1 isArtifact with process | other
  · exact processes a process
  · obtain ⟨group, isGroup, inGroup⟩ := List.mem_flatten.1 other
    exact further group isGroup a inGroup

/-- **The files of modules** are those that the crate root is planned to declare. -/
theorem paths_moduleArtifacts (translated : List.Forall₂ (IsProcessFile input) (modelsById input.models) files) :
    (moduleArtifacts input e wantsRest files (modelsById input.models)).map Artifact.path =
      (plannedModules input e wantsRest).map Prod.fst := by
  rw [moduleArtifacts, List.map_append, paths_processes translated, plannedModules_eq, moduleGroups, sortedIds_eq]
  simp only [furtherGroups, List.take_succ_cons, List.take_zero, List.flatten_cons, List.flatten_nil, List.append_nil,
    List.flatMap_cons, List.flatMap_nil, List.map_append, List.map_map]
  refine congrArg₂ _ rfl (congrArg₂ _ rfl (congrArg₂ _ ?_ (congrArg₂ _ ?_ ?_)))
  · split
    · rw [List.map_map, List.map_map]
      rfl
    · rfl
  · rw [Environment.has, Capability.messaging]
    split
    · rfl
    · rfl
  · split
    · rfl
    · rfl

/-- **The sources but the crate root** are the files of modules. -/
theorem moduleSources_eq (translated : List.Forall₂ (IsProcessFile input) models files)
    (distinct : ((files ++ furtherArtifacts input e wantsRest models).map Artifact.path).Nodup) :
    (files ++ furtherArtifacts input e wantsRest models).filter (fun a => a.kind = .source ∧ a.path ≠ Source.crateRoot) =
      moduleArtifacts input e wantsRest files models := by
  rw [artifacts_eq] at distinct ⊢
  rw [List.map_append, List.nodup_append] at distinct
  have kept : ∀ a ∈ moduleArtifacts input e wantsRest files models,
      decide (a.kind = .source ∧ a.path ≠ Source.crateRoot) = true := by
    intro a isArtifact
    have notRoot := distinct.2.2 a.path (List.mem_map_of_mem isArtifact) Source.crateRoot List.mem_cons_self
    exact decide_eq_true ⟨isSource_moduleArtifacts translated a isArtifact, notRoot⟩
  rw [List.filter_append, List.filter_eq_self.2 kept]
  exact List.append_nil _

/-- each model has a file among the files of processes -/
theorem exists_processFile (translated : List.Forall₂ (IsProcessFile input) models files) {m : ProcessModel}
    (isModel : m ∈ models) : ∃ content, Translation.compileText m input.kinds input.runtimeCrate = .ok content ∧
      ⟨.source, processPath m.id, content⟩ ∈ files := by
  obtain ⟨_, isFile, content, compiled, rfl⟩ := exists_of_mem_left translated isModel
  exact ⟨content, compiled, isFile⟩

end Generation

/-! ## Compiled sources -/

theorem CompiledUnit.items_of_ofArtifact {crateName : String} {a : Artifact} {u : CompiledUnit}
    (made : ofArtifact crateName a = .ok u) :
    ∃ items, readFile a.content = .ok items ∧
      u.declarations = TypeIndex.ofItems crateName (Source.modulePath crateName a.path) items := by
  unfold ofArtifact at made
  cases read : readFile a.content with
  | error fault =>
    rw [read] at made
    cases made
  | ok items =>
    rw [read] at made
    obtain rfl := Except.ok.inj made
    exact ⟨items, rfl, rfl⟩

theorem CompiledUnit.exists_unit {crateName : String} {artifacts : List Artifact} {units : List CompiledUnit}
    (compiled : ofArtifacts crateName artifacts = .ok units) {path content : String}
    (isArtifact : ⟨.source, path, content⟩ ∈ artifacts) :
    ∃ items, readFile content = .ok items ∧
      ∃ u ∈ units, u.declarations = TypeIndex.ofItems crateName (Source.modulePath crateName path) items := by
  obtain ⟨u, isUnit, made⟩ := exists_of_mem_left (mapM_eq_ok_iff.1 compiled) (List.mem_filter.2 ⟨isArtifact, rfl⟩)
  obtain ⟨items, read, declares⟩ := items_of_ofArtifact made
  exact ⟨items, read, u, isUnit, declares⟩

theorem mem_factsOfAll {scope : Scope} {items : List Item} {item : Item} {fact : TypeFact} (isItem : item ∈ items)
    (h : fact ∈ item.facts scope) : fact ∈ factsOfAll scope items := by
  induction items with
  | nil => cases isItem
  | cons first rest ih =>
    rw [factsOfAll, List.mem_append]
    rcases List.mem_cons.1 isItem with rfl | later
    · exact .inl h
    · exact .inr (ih later)

/-- **A structure that a file declares** is one in the index of the file. -/
theorem TypeIndex.tells_ofItems {crateName modulePath name : String} {items : List Item} (h : .struct name ∈ items) :
    (TypeIndex.ofItems crateName modulePath items).Tells (modulePath ++ "::" ++ name) fun t => t.kind = some .struct := by
  refine tells_insertAll TypeInfo.isLasting_struct (.inr ⟨.declared .struct, ?_, rfl⟩)
  refine mem_factsOfAll h ?_
  rw [Item.facts, Scope.localName_ofItems]
  exact List.mem_cons_self

/-! ## Agreement -/

/-- the sources of a build but the crate root -/
def BuildOutput.moduleSources (output : BuildOutput) : List Artifact :=
  output.artifacts.filter fun a => a.kind = .source ∧ a.path ≠ "lib.rs"

/-- a source of the build that is what a model is translated to -/
structure IsTranslation (input : BuildInput) (output : BuildOutput) (m : ProcessModel) (a : Artifact) : Prop where
  source : a ∈ output.moduleSources
  compiled : Translation.compileText m input.generation.kinds input.generation.runtimeCrate = .ok a.content

/-- the call that builds the process of a model: it names the module that is declared for the source of the model and the
one type that this source declares -/
def IsBuilt (input : BuildInput) (output : BuildOutput) (modules : List (String × String)) (call : String × String)
    (m : ProcessModel) : Prop :=
  ∃ a items, IsTranslation input output m a ∧ (a.path, call.1) ∈ modules ∧ readFile a.content = .ok items ∧
    items.filterMap Item.declares? = [call.2]

/-- what the manifest says of a model: its id, its source and a structure of the index -/
structure IsListed (input : BuildInput) (output : BuildOutput) (entry : Json) (m : ProcessModel) : Prop where
  id : entry.get? "id" = some (.string m.id)
  source : ∃ a, IsTranslation input output m a ∧ entry.get? "source" = some (.string a.path)
  type : ∃ name, entry.get? "type" = some (.string name) ∧ output.index.Tells name fun t => t.kind = some .struct

/-- **The crate root, the manifest and the files of a build agree** on modules and on models in the order of their ids. -/
structure Agrees (input : BuildInput) (output : BuildOutput) (root : CrateRoot) (entries : List Json)
    (models : List ProcessModel) : Prop where
  /-- no two artifacts have one path -/
  paths : (output.artifacts.map Artifact.path).Nodup
  /-- the models are all of the build, in the order of their ids -/
  all : models.Perm input.models
  ascending : (models.map (·.id)).Pairwise (· < ·)
  /-- the crate root, as its text is read -/
  crateRoot : ∃ content, ⟨.source, "lib.rs", content⟩ ∈ output.artifacts ∧ CrateRoot.ofText? content = some root
  /-- the modules that it declares are those of the sources, in order -/
  sources : root.modules.map Prod.fst = output.moduleSources.map Artifact.path
  named : ∀ x ∈ root.modules, moduleName x.1 = some x.2
  distinct : (root.modules.map Prod.snd).Nodup
  processIds : root.processIds = models.map (·.id)
  built : List.Forall₂ (IsBuilt input output root.modules) root.calls models
  /-- the manifest, as its text is read, lists the models -/
  manifest : ∃ content, ⟨.resource, "META-INF/processes.json", content⟩ ∈ output.artifacts ∧
    Json.parse content = .ok (.array entries)
  listed : List.Forall₂ (IsListed input output) entries models

/-! ## Crate root -/

theorem moduleName_of_mem {input : GenerationInput} {e : Environment} {wantsRest : Bool} :
    ∀ x ∈ plannedModules input e wantsRest, moduleName x.1 = some x.2 := by
  intro x isModule
  obtain ⟨path, -, declared⟩ := List.mem_filterMap.1 isModule
  obtain ⟨name, named, rfl⟩ := Option.map_eq_some_iff.1 declared
  exact named

theorem identifier_of_mem {input : GenerationInput} {e : Environment} {wantsRest : Bool} :
    ∀ x ∈ plannedModules input e wantsRest, Identifier x.2 := identifier_crateModules (moduleSources_named _)

theorem processModule_mem {input : GenerationInput} {e : Environment} {wantsRest : Bool} {m : ProcessModel}
    (isModel : m ∈ input.models) :
    (processPath m.id, "processes_" ++ fileStem m.id) ∈ plannedModules input e wantsRest := by
  rw [plannedModules_eq]
  refine List.mem_flatMap.2 ⟨_, List.mem_cons_self, List.mem_map.2 ⟨m.id, ?_, rfl⟩⟩
  exact mem_sortedIds.2 ⟨m, isModel, rfl⟩

/-! ## Manifest -/

def manifestFields (crateName : String) (m : ProcessModel) : List (String × Option Json) :=
  [("id", some (.string m.id)), ("name", m.name.map .string), ("packageName", m.packageName.map .string),
    ("version", m.version.map .string),
    ("type", some (.string (modulePath crateName (processPath m.id) ++ "::" ++ processTypeName m.id))),
    ("source", some (.string (processPath m.id)))]

theorem manifestEntry_eq (crateName : String) (m : ProcessModel) :
    manifestEntry crateName m = .object (present (manifestFields crateName m)) := by
  unfold manifestEntry
  rw [optionalMember_eq, optionalMember_eq, optionalMember_eq]
  show Json.object (present [("id", some _)] ++ present [_] ++ present [_] ++ present [_] ++
    present [("type", some _), ("source", some _)]) = _
  simp only [← present_append]
  rfl

/-- what a manifest entry says when it is read back -/
theorem get?_manifestEntry (crateName : String) (m : ProcessModel) : ∀ e ∈ manifestFields crateName m,
    (manifestEntry crateName m).sorted.get? e.1 = e.2.map sorted := by
  obtain ⟨ms, arranged, found⟩ := arranges_sorted.object_present (manifestFields crateName m) (by simp [manifestFields])
  rw [manifestEntry_eq, arranged]
  exact found

/-- the fields of a manifest entry are texts, so brackets nest no deeper than its own -/
theorem nests_manifestEntry (crateName : String) (m : ProcessModel) (depth : Nat) :
    Nests (depth + 1) (manifestEntry crateName m) := by
  have texts : ∀ e ∈ manifestFields crateName m, ∀ v ∈ e.2, Nests depth v := by
    have text : ∀ s : String, Nests depth (.string s) := fun s => by unfold Nests; trivial
    have optional : ∀ o : Option String, ∀ v ∈ o.map Json.string, Nests depth v := by
      intro o v isValue
      obtain ⟨s, -, rfl⟩ := Option.map_eq_some_iff.1 isValue
      exact text s
    have always : ∀ s, ∀ v ∈ some (Json.string s), Nests depth v := fun s => optional (some s)
    simp only [manifestFields, List.forall_mem_cons]
    exact ⟨always _, optional _, optional _, optional _, always _, always _, List.forall_mem_nil _⟩
  rw [manifestEntry_eq]
  intro e isMember
  exact texts _ (mem_present isMember) _ rfl

/-- **A manifest is read back** as its entries. -/
theorem parse_manifest (crateName : String) (models : List ProcessModel) :
    Json.parse (Json.pretty (.array (models.map (manifestEntry crateName)))) =
      .ok (.array (models.map fun m => (manifestEntry crateName m).sorted)) := by
  have nests : Nests 127 (.array (models.map (manifestEntry crateName))) :=
    List.forall_mem_map.2 fun m _ => nests_manifestEntry crateName m 125
  rw [parse_pretty nests, sorted, sortedItems_eq, List.map_map]
  rfl

/-! ## Builds -/

section Made

variable {input : BuildInput} {output : BuildOutput}

theorem generated_of_makes (made : input.Makes output) :
    ∃ files, List.Forall₂ (IsProcessFile input.generation) (modelsById input.models) files ∧
      output.artifacts = files ++ furtherArtifacts input.generation input.environment output.gate.generateRest
        (modelsById input.models) ∧
      (output.artifacts.map Artifact.path).Nodup :=
  run_discover_ok_iff.1 made.artifacts

theorem stems_of_makes (made : input.Makes output) : ((modelsById input.models).map fun m => fileStem m.id).Nodup := by
  obtain ⟨files, translated, whole, paths⟩ := generated_of_makes made
  rw [whole, List.map_append, List.nodup_append, paths_processes translated] at paths
  exact distinct_stems paths.1

theorem processFile_of_makes (made : input.Makes output) {m : ProcessModel} (isModel : m ∈ input.models) :
    Grammar.startsBranch input.generation.runtime = true ∧
    ∃ content, IsTranslation input output m ⟨.source, processPath m.id, content⟩ ∧
      readFile content = .ok (Translation.processItems input.generation.runtime m.id) ∧
      output.index.Tells (modulePath input.settings.crateName (processPath m.id) ++ "::" ++ processTypeName m.id)
        fun t => t.kind = some .struct := by
  obtain ⟨files, translated, whole, paths⟩ := generated_of_makes made
  obtain ⟨content, compiled, isFile⟩ := exists_processFile translated (mem_modelsById.2 isModel)
  have isArtifact : ⟨.source, processPath m.id, content⟩ ∈ output.artifacts := whole ▸ List.mem_append_left _ isFile
  obtain ⟨items, read, u, isUnit, declared⟩ := CompiledUnit.exists_unit made.units isArtifact
  obtain ⟨starts, rfl⟩ := Translation.items_of_readFile compiled read
  have isSource : ⟨.source, processPath m.id, content⟩ ∈ output.moduleSources := by
    rw [BuildOutput.moduleSources, whole]
    exact moduleSources_eq translated (whole ▸ paths) ▸ List.mem_append_left _ isFile
  refine ⟨starts, content, ⟨isSource, compiled⟩, read, ?_⟩
  rw [made.index]
  refine TypeIndex.tells_addUnits TypeInfo.isLasting_struct (.inr ⟨u, isUnit, ?_⟩)
  rw [declared]
  exact TypeIndex.tells_ofItems (List.mem_cons_of_mem _ List.mem_cons_self)

theorem isBuilt_of_makes (made : input.Makes output) {m : ProcessModel} (isModel : m ∈ input.models) :
    IsBuilt input output (plannedModules input.generation input.environment output.gate.generateRest)
      ("processes_" ++ fileStem m.id, processTypeName m.id) m := by
  obtain ⟨-, content, isTranslation, read, -⟩ := processFile_of_makes made isModel
  exact ⟨_, _, isTranslation, processModule_mem isModel, read, rfl⟩

theorem isListed_of_makes (made : input.Makes output) {m : ProcessModel} (isModel : m ∈ input.models) :
    IsListed input output (manifestEntry input.settings.crateName m).sorted m := by
  obtain ⟨-, content, isTranslation, -, told⟩ := processFile_of_makes made isModel
  have said := get?_manifestEntry input.settings.crateName m
  simp only [manifestFields, List.forall_mem_cons] at said
  obtain ⟨id, -, -, -, type, source, -⟩ := said
  exact ⟨id, ⟨_, isTranslation, source⟩, _, type, told⟩

end Made

/-- **The parts of a build agree** whenever it succeeds. -/
theorem agrees_of_run {input : BuildInput} {compiler : ExternalCompiler} {s t : BuildState} {output : BuildOutput}
    (h : input.run compiler s = (.ok output, t)) : ∃ root entries models, Agrees input output root entries models := by
  have made := BuildInput.makes_of_run h
  obtain ⟨files, translated, whole, paths⟩ := generated_of_makes made
  let e := input.environment
  let rest := output.gate.generateRest
  let ids := sortedIds input.models
  let calls := ids.map fun id => ("processes_" ++ fileStem id, processTypeName id)
  -- calls and entries are made of the sorted ids, which are the ids of the sorted models
  have idsOfModels : ids = (modelsById input.models).map (·.id) := sortedIds_eq input.models
  refine ⟨⟨plannedModules input.generation e rest, ids, calls⟩,
    (modelsById input.models).map fun m => (manifestEntry input.settings.crateName m).sorted, modelsById input.models, ?_⟩
  have sources : output.moduleSources = moduleArtifacts input.generation e rest files (modelsById input.models) := by
    rw [BuildOutput.moduleSources, whole]
    exact moduleSources_eq translated (whole ▸ paths)
  -- the crate root and the manifest are the last two groups
  have last : ∀ a ∈ ((furtherGroups input.generation e rest (modelsById input.models)).drop 4).flatten,
      a ∈ output.artifacts := by
    intro a isLast
    rw [whole, artifacts_eq]
    exact List.mem_append_right _ isLast
  exact {
    paths
    all := modelsById_perm input.models
    ascending := ascending_of_run made.artifacts
    crateRoot := ⟨_, last _ List.mem_cons_self,
      ofText?_crateRoot (isName_identifierOf input.generation.runtimeCrate) identifier_of_mem ids⟩
    sources := by rw [sources]; exact (paths_moduleArtifacts translated).symm
    named := moduleName_of_mem
    distinct := distinct_moduleNames input.generation e rest (by
      rw [sortedIds_eq, List.map_map]
      exact stems_of_makes made)
    processIds := idsOfModels
    built := by
      show List.Forall₂ _ (ids.map _) _
      rw [idsOfModels, List.map_map, List.forall₂_map_left_iff, List.forall₂_same]
      exact fun m isModel => isBuilt_of_makes made (mem_modelsById.1 isModel)
    manifest := ⟨_, last _ (List.mem_cons_of_mem _ List.mem_cons_self), parse_manifest _ _⟩
    listed := by
      rw [List.forall₂_map_left_iff, List.forall₂_same]
      exact fun m isModel => isListed_of_makes made (mem_modelsById.1 isModel) }

theorem hostileBuild_agrees : ∃ output t root entries models,
    BuildInput.hostileBuild.run (fun _ => none) ⟨{}, none⟩ = (.ok output, t) ∧
      Agrees BuildInput.hostileBuild output root entries models := by
  obtain ⟨output, t, built⟩ := BuildInput.hostileBuild_runs
  obtain ⟨root, entries, models, agrees⟩ := agrees_of_run built
  exact ⟨output, t, root, entries, models, built, agrees⟩

end ProcessBuild
