/-
Wider builds keep what narrower ones keep. What is added to a build, be it models, units, entries of dependencies or
addons, only adds to its allow-list, as long as nothing that is added tells of another supertype of a type.
- `AllowList.ofIndex_merge`: the allow-list of an index is part of the one of a wider index.
- `index_le_of_makes`: a build with more models and dependencies has a wider index.
- `allowList_widens`: the allow-lists of indexes, of units and of builds only grow.
-/
import ProcessBuild.Proofs.Build.Acceptance
import ProcessBuild.Proofs.Build.KeptEvents
import ProcessBuild.Proofs.Reflection.AllowList
import ProcessBuild.Proofs.TypeIndex.Widening

namespace ProcessBuild

open Source Grammar Generation

/-- every addon that is on is on among others -/
def Addons.Within (addons others : Addons) : Prop := ∀ g, addons.Enables g → others.Enables g

/-! ## Allow-lists -/

namespace AllowList

variable {index other : TypeIndex} {table : ReflectionTable} {addons others : Addons}

/-- the entries of an allow-list are known by their names -/
theorem subset_of_names {wider : TypeIndex}
    (h : ∀ name ∈ (ofIndex index table addons).names, name ∈ (ofIndex wider table others).names) :
    ofIndex index table addons ⊆ ofIndex wider table others := by
  rw [names_ofIndex, names_ofIndex] at h
  rw [ofIndex_eq, ofIndex_eq]
  exact List.map_subset _ h

/-- **The allow-list of an index** is part of the allow-list of the index with another one merged into it, when the two
agree on supertypes. -/
theorem ofIndex_merge (agree : index.SupertypesAgree other) (within : addons.Within others) :
    ofIndex index table addons ⊆ ofIndex (index.merge other) table others := by
  apply subset_of_names
  intro name kept
  rw [mem_names_ofIndex] at kept ⊢
  rcases kept with isCore | ⟨g, types, enabled, present, declared⟩ | ⟨root, isRoot, notRoot, concrete, chain⟩
  · exact .inl isCore
  · exact .inr (.inl ⟨g, types, within g enabled, present, declared⟩)
  · exact .inr (.inr ⟨root, isRoot, notRoot, concrete.merge, TypeIndex.chain_merge chain agree⟩)

theorem ofIndex_mono (wider : index ≤ other) (agree : index.SupertypesAgree other) (within : addons.Within others) :
    ofIndex index table addons ⊆ ofIndex other table others := by
  have merged : index.merge other = other := sup_eq_right.2 wider
  have kept := @ofIndex_merge _ _ table _ _ agree within
  rwa [merged] at kept

end AllowList

/-! ## Builds -/

/-- a build with other models, dependencies and addons -/
def BuildInput.rebuilt (input : BuildInput) (models : List ProcessModel) (closure : DependencyClosure) (addons : Addons) :
    BuildInput := { input with models, closure, environment := { input.environment with addons } }

section Made

variable {input : BuildInput} {models : List ProcessModel} {closure : DependencyClosure} {addons : Addons}
  {output larger : BuildOutput}

/-- the gate does not depend on what is added -/
theorem gate_of_makes (made : input.Makes output) (rebuilt : (input.rebuilt models closure addons).Makes larger) :
    larger.gate = output.gate := by
  have checked : RestGate.check input.environment = .ok larger.gate := rebuilt.gate
  exact Except.ok.inj (checked.symm.trans made.gate)

/-- a build of a model succeeds only when paths can start with the name of the runtime crate -/
theorem startsPath_of_makes (made : input.Makes output) {m : ProcessModel} (isModel : m ∈ input.models) :
    startsPath input.generation.runtime = true := by
  by_contra other
  obtain ⟨path, content, fault, isArtifact, refused⟩ :=
    @exists_refused input.generation _ _ _ m (Bool.eq_false_iff.2 other) isModel made.artifacts
  obtain ⟨items, read, -⟩ := CompiledUnit.exists_unit made.units isArtifact
  cases refused.symm.trans read

theorem le_index_of_mem (made : input.Makes output) {path content : String} {items : List Item}
    (isArtifact : ⟨.source, path, content⟩ ∈ output.artifacts) (read : readFile content = .ok items) :
    TypeIndex.ofItems input.settings.crateName (Source.modulePath input.settings.crateName path) items ≤ output.index := by
  obtain ⟨others, readOthers, u, isUnit, told⟩ := CompiledUnit.exists_unit made.units isArtifact
  obtain rfl := Except.ok.inj (read.symm.trans readOthers)
  rw [← told, made.index]
  exact (TypeIndex.addUnits_le_iff.1 le_rfl).2 u isUnit

/-- the files of processes are those of a build with more models as well -/
theorem processFiles_subset {input : GenerationInput} {files others : List Artifact} (more : input.models ⊆ models)
    (translated : List.Forall₂ (IsProcessFile input) (modelsById input.models) files)
    (translatedOthers : List.Forall₂ (IsProcessFile { input with models }) (modelsById models) others) :
    files ⊆ others := by
  intro a isFile
  obtain ⟨m, isModel, content, compiled, rfl⟩ := exists_of_mem_right translated isFile
  have isOther : m ∈ modelsById models := mem_modelsById.2 (more (mem_modelsById.1 isModel))
  obtain ⟨content', compiled', isFile'⟩ := exists_processFile translatedOthers isOther
  obtain rfl := Except.ok.inj (compiled.symm.trans compiled')
  exact isFile'

theorem mem_further_hotReload {input : GenerationInput} {e : Environment} {wantsRest : Bool} (live : e.liveReload = false) :
    ⟨.source, hotReloadPath, hotReloadSource input.models⟩ ∈ furtherArtifacts input e wantsRest models := by
  simp only [furtherArtifacts, furtherGroups, List.flatten_cons, List.mem_append, live, if_false, Bool.false_eq_true]
  exact .inr (.inr (.inr (.inl List.mem_cons_self)))

/-- the other files are those of a build with more models as well, apart from the three that tell of all the models -/
theorem furtherArtifact_cases {input : GenerationInput} {e : Environment} {wantsRest : Bool} {a : Artifact}
    (more : input.models ⊆ models) (isFurther : a ∈ furtherArtifacts input e wantsRest (modelsById input.models)) :
    a ∈ furtherArtifacts { input with models } e wantsRest (modelsById models) ∨
      (e.liveReload = false ∧ a = ⟨.source, hotReloadPath, hotReloadSource input.models⟩) ∨
      a = ⟨.source, crateRoot, text (crateRootTokens input.runtime (plannedModules input e wantsRest)
        (sortedIds input.models))⟩ ∨ a.kind = .resource := by
  have kept : ∀ f : ProcessModel → Artifact, (modelsById input.models).map f ⊆ (modelsById models).map f :=
    fun f => List.map_subset f fun m isModel => mem_modelsById.2 (more (mem_modelsById.1 isModel))
  simp only [furtherArtifacts, furtherGroups, List.flatten_cons, List.flatten_nil, List.append_nil, List.mem_append]
    at isFurther ⊢
  rcases isFurther with events | rest | messaging | hotReload | root | manifest
  · exact .inl (.inl (kept _ events))
  · cases wantsRest with
    | false => cases rest
    | true => exact .inl (.inr (.inl (kept _ rest)))
  · exact .inl (.inr (.inr (.inl messaging)))
  · cases live : e.liveReload with
    | true =>
      rw [live] at hotReload
      cases hotReload
    | false =>
      rw [live] at hotReload
      exact .inr (.inl ⟨rfl, List.mem_singleton.1 hotReload⟩)
  · exact .inr (.inr (.inl (List.mem_singleton.1 root)))
  · obtain rfl := List.mem_singleton.1 manifest
    exact .inr (.inr (.inr rfl))

theorem exists_source {crateName : String} {artifacts : List Artifact} {units : List CompiledUnit}
    (compiled : CompiledUnit.ofArtifacts crateName artifacts = .ok units) {u : CompiledUnit} (isUnit : u ∈ units) :
    ∃ path content items, ⟨.source, path, content⟩ ∈ artifacts ∧ readFile content = .ok items ∧
      u.declarations = TypeIndex.ofItems crateName (Source.modulePath crateName path) items := by
  obtain ⟨⟨kind, path, content⟩, isSource, made⟩ := exists_of_mem_right (mapM_eq_ok_iff.1 compiled) isUnit
  obtain ⟨isArtifact, isSource⟩ := List.mem_filter.1 isSource
  obtain rfl : kind = .source := of_decide_eq_true isSource
  obtain ⟨items, read, declares⟩ := CompiledUnit.items_of_ofArtifact made
  exact ⟨path, content, items, isArtifact, read, declares⟩

/-- an index without entries tells nothing that another one does not -/
theorem le_of_no_entries {index : TypeIndex} (h : index.types.entries = []) (other : TypeIndex) : index ≤ other := by
  have added : other.merge index = other := by
    unfold TypeIndex.merge
    rw [h]
    rfl
  exact sup_eq_right.2 ((TypeIndex.merge_comm index other).trans added)

/-- without models the artifacts are the same, whatever else is added -/
theorem artifacts_rebuilt_nil (none : input.models = []) (gate : RestGate) :
    (input.rebuilt [] closure addons).artifacts gate = input.artifacts gate := by
  have generation : (input.rebuilt [] closure addons).generation = input.generation := by
    unfold BuildInput.generation
    rw [none]
    rfl
  unfold BuildInput.artifacts
  rw [generation, none]
  rfl

/-- **A source of a build** is one of a build with more models as well, or tells of all the models: then it marks them for
hot reload, as a source of the other build does, or is the root of the crate. -/
theorem source_cases (made : input.Makes output) (rebuilt : (input.rebuilt models closure addons).Makes larger)
    (more : input.models ⊆ models) {path content : String} (isArtifact : ⟨.source, path, content⟩ ∈ output.artifacts) :
    ⟨.source, path, content⟩ ∈ larger.artifacts ∨
      (path = hotReloadPath ∧ content = hotReloadSource input.models ∧
        ⟨.source, hotReloadPath, hotReloadSource models⟩ ∈ larger.artifacts) ∨
      (models ≠ [] ∧ path = crateRoot ∧ content = text (crateRootTokens input.generation.runtime
        (plannedModules input.generation input.environment output.gate.generateRest) (sortedIds input.models))) := by
  have sameGate := gate_of_makes made rebuilt
  -- without models both builds generate the same
  by_cases none : models = []
  · subst none
    have generated := rebuilt.artifacts
    rw [sameGate, artifacts_rebuilt_nil (List.subset_nil.1 more)] at generated
    obtain same : output.artifacts = larger.artifacts := Except.ok.inj (made.artifacts.symm.trans generated)
    exact .inl (same ▸ isArtifact)
  obtain ⟨files, translated, whole, -⟩ := generated_of_makes made
  obtain ⟨filesOthers, translatedOthers, wholeOthers, -⟩ := generated_of_makes rebuilt
  rw [sameGate] at wholeOthers
  rw [whole] at isArtifact
  rw [wholeOthers]
  rcases List.mem_append.1 isArtifact with isFile | isFurther
  · have isFileOther := @processFiles_subset _ input.generation _ _ more translated translatedOthers _ isFile
    exact .inl (List.mem_append_left _ isFileOther)
  rcases @furtherArtifact_cases _ input.generation _ _ _ more isFurther with both | ⟨live, marker⟩ | root | resource
  · exact .inl (List.mem_append_right _ both)
  · cases marker
    exact .inr (.inl ⟨rfl, rfl, List.mem_append_right _ (mem_further_hotReload live)⟩)
  · cases root
    exact .inr (.inr ⟨none, rfl, rfl⟩)
  · cases resource

/-- **A unit of a build** tells nothing that the index of a build with more models does not tell. -/
theorem unit_le_of_makes (made : input.Makes output) (rebuilt : (input.rebuilt models closure addons).Makes larger)
    (more : input.models ⊆ models) {u : CompiledUnit} (isUnit : u ∈ output.units) : u.declarations ≤ larger.index := by
  obtain ⟨path, content, items, isArtifact, read, told⟩ := exists_source made.units isUnit
  rw [told]
  rcases source_cases made rebuilt more isArtifact with both | ⟨rfl, rfl, isMarker⟩ | ⟨some, rfl, rfl⟩
  · exact le_index_of_mem rebuilt both read
  · -- the marker declares the same whatever the models are
    obtain rfl := Except.ok.inj (read.symm.trans (readFile_hotReload _))
    exact le_index_of_mem rebuilt isMarker (readFile_hotReload _)
  · -- the root of the crate declares no types
    obtain ⟨m, isModel⟩ := List.exists_mem_of_ne_nil models some
    have name : IsName input.generation.runtime.toList := isName_identifierOf input.settings.runtimeCrate
    have starts : startsPath input.generation.runtime = true :=
      @startsPath_of_makes (input.rebuilt models closure addons) _ rebuilt m isModel
    obtain rfl := Except.ok.inj (read.symm.trans (readFile_crateRoot name starts identifier_of_mem _))
    exact le_of_no_entries (entries_crateRoot _) _

/-- **A build with more models and dependencies** has an index that tells what the one of the build tells. -/
theorem index_le_of_makes (made : input.Makes output) (rebuilt : (input.rebuilt models closure addons).Makes larger)
    (more : input.models ⊆ models) (known : input.closure.index ≤ closure.index) : output.index ≤ larger.index := by
  have before : closure.index ≤ larger.index := by
    rw [rebuilt.index]
    exact (TypeIndex.addUnits_le_iff.1 le_rfl).1
  rw [made.index]
  refine TypeIndex.addUnits_le_iff.2 ⟨known.trans before, fun u isUnit => ?_⟩
  exact unit_le_of_makes made rebuilt more isUnit

end Made

/-! ## Supertypes -/

/-- the supertypes that a build is planned to index: those of its dependencies and those of the generated types -/
def BuildInput.plannedSupertypes (input : BuildInput) (gate : RestGate) : List (String × String) :=
  TypeIndex.supertypesOf (input.closure.index.types.entries ++
    ((discover input.models input.environment gate.generateRest).flatMap (planned input.generation)).flatMap Prod.snd)

theorem mem_plannedSupertypes {input : BuildInput} {output : BuildOutput} {gate : RestGate} (made : input.Makes output)
    (free : isFreeWord (identifierOf input.settings.runtimeCrate) = true)
    (checked : RestGate.check input.environment = .ok gate) {name parent : String}
    (told : output.index.TellsSupertype name parent) : (name, parent) ∈ input.plannedSupertypes gate := by
  obtain rfl : output.gate = gate := Except.ok.inj (made.gate.symm.trans checked)
  obtain ⟨units, compiled, plan⟩ := BuildInput.declares_artifacts free made.artifacts
  obtain rfl : units = output.units := Except.ok.inj (compiled.symm.trans made.units)
  rw [made.index] at told
  rcases TypeIndex.tellsSupertype_of_addUnits told with known | ⟨u, isUnit, inUnit⟩
  · obtain ⟨t, isEntry, leads⟩ := TypeIndex.tells_iff.1 known
    exact TypeIndex.mem_supertypesOf.2 ⟨t, List.mem_append_left _ isEntry, leads⟩
  · obtain ⟨t, isEntry, leads⟩ := TypeIndex.tells_iff.1 inUnit
    have isPlanned := List.mem_map_of_mem (f := fun u : CompiledUnit => (u.path, u.declarations.types.entries)) isUnit
    rw [plan] at isPlanned
    exact TypeIndex.mem_supertypesOf.2 ⟨t, List.mem_append_right _ (List.mem_flatMap.2 ⟨_, isPlanned, isEntry⟩), leads⟩

/-- builds whose planned supertypes agree have indexes that do -/
theorem supertypesAgree_of_planned {input other : BuildInput} {output larger : BuildOutput} {gate gateOther : RestGate}
    (made : input.Makes output) (madeOther : other.Makes larger)
    (free : isFreeWord (identifierOf input.settings.runtimeCrate) = true)
    (freeOther : isFreeWord (identifierOf other.settings.runtimeCrate) = true)
    (checked : RestGate.check input.environment = .ok gate)
    (checkedOther : RestGate.check other.environment = .ok gateOther)
    (agree : TypeIndex.PairsAgree (input.plannedSupertypes gate) (other.plannedSupertypes gateOther)) :
    output.index.SupertypesAgree larger.index := by
  intro name first second told toldOther
  have isPlanned := mem_plannedSupertypes made free checked told
  have isPlannedOther := mem_plannedSupertypes madeOther freeOther checkedOther toldOther
  exact agree _ isPlanned _ isPlannedOther rfl

/-! ## Growth -/

/-- **The allow-list only grows.** What an index keeps is kept when another index, units or entries of dependencies are
merged into it and addons are switched on, unless a type gets another supertype by it; and what a build keeps is kept by
every build that succeeds with its models and dependencies and others. The kinds of types need not agree. -/
theorem allowList_widens :
    (∀ (index other : TypeIndex) (table : ReflectionTable) (addons others : Addons),
      index.SupertypesAgree other → addons.Within others →
        AllowList.ofIndex index table addons ⊆ AllowList.ofIndex (index.merge other) table others) ∧
    (∀ (index other : TypeIndex) (units more : List CompiledUnit) (table : ReflectionTable) (addons others : Addons),
      (index.addUnits units).SupertypesAgree (other.addUnits more) → addons.Within others →
        AllowList.ofIndex (index.addUnits units) table addons ⊆
          AllowList.ofIndex ((index.merge other).addUnits (units ++ more)) table others) ∧
    ∀ (input : BuildInput) (models : List ProcessModel) (closure : DependencyClosure) (addons : Addons)
      (compiler compiler' : ExternalCompiler) (s s' t t' : BuildState) (output larger : BuildOutput),
      input.run compiler s = (.ok output, t) →
      (input.rebuilt models closure addons).run compiler' s' = (.ok larger, t') →
      input.models ⊆ models → input.closure.index ≤ closure.index → input.environment.addons.Within addons →
      output.index.SupertypesAgree larger.index → output.allowList ⊆ larger.allowList := by
  refine ⟨?indexes, ?units, ?builds⟩
  case indexes =>
    intro index other table addons others agree within
    exact AllowList.ofIndex_merge agree within
  case units =>
    intro index other units more table addons others agree within
    rw [← TypeIndex.addUnits_merge]
    exact AllowList.ofIndex_merge agree within
  -- the wider build has an index that is at least that of the other one
  case builds =>
    intro input models closure addons compiler compiler' s s' t t' output larger built rebuilt more known within agree
    have made := BuildInput.makes_of_run built
    have madeLarger := BuildInput.makes_of_run rebuilt
    have wider : output.index ≤ larger.index := index_le_of_makes made madeLarger more known
    rw [made.allowList, madeLarger.allowList]
    exact AllowList.ofIndex_mono wider agree within

/-- a library with a structure of data events -/
def auditIndex : TypeIndex :=
  TypeIndex.ofFacts [("lib::Audited", .ofStruct none ["flowcanon_runtime::event::DataEvent"])]

/-- a library that tells of the same type as a trait -/
def disputeIndex : TypeIndex := TypeIndex.ofFacts [("lib::Audited", .declared .trait)]

/-- a build without models for the first library -/
def auditBuild : BuildInput := BuildInput.hostileBuild.rebuilt [] { index := auditIndex } {}

/-- the same build for the hostile process, the second library and an addon as well -/
def disputeBuild : BuildInput :=
  auditBuild.rebuilt [hostileProcess] { index := auditIndex.merge disputeIndex } { tracing := true }

theorem auditBuild_runs : ∃ output t, auditBuild.run (fun _ => none) ⟨{}, none⟩ = (.ok output, t) := by
  have makeable : auditBuild.canMake (.asConfigured false) {} = true := by decide +kernel
  exact BuildInput.run_of_canMake _ rfl (by decide) rfl makeable

theorem disputeBuild_runs : ∃ output t, disputeBuild.run (fun _ => none) ⟨{}, none⟩ = (.ok output, t) := by
  have makeable : disputeBuild.canMake (.asConfigured false) {} = true := by decide +kernel
  exact BuildInput.run_of_canMake _ rfl (by decide) rfl makeable

open TypeIndex in
theorem disputeBuild_widens :
    (auditIndex.SupertypesAgree disputeIndex ∧
      AllowList.ofIndex auditIndex auditBuild.table {} ⊆
        AllowList.ofIndex (auditIndex.merge disputeIndex) auditBuild.table { tracing := true }) ∧
    ((auditIndex.addUnits [declaringUnit]).SupertypesAgree (disputeIndex.addUnits [declaringUnit]) ∧
      AllowList.ofIndex (auditIndex.addUnits [declaringUnit]) auditBuild.table {} ⊆
        AllowList.ofIndex ((auditIndex.merge disputeIndex).addUnits [declaringUnit, declaringUnit]) auditBuild.table
          { tracing := true }) ∧
    ∃ output t larger t', auditBuild.run (fun _ => none) ⟨{}, none⟩ = (.ok output, t) ∧
      disputeBuild.run (fun _ => none) ⟨{}, none⟩ = (.ok larger, t') ∧ auditBuild.models ⊆ disputeBuild.models ∧
      auditBuild.closure.index ≤ disputeBuild.closure.index ∧
      auditBuild.environment.addons.Within disputeBuild.environment.addons ∧
      output.index.SupertypesAgree larger.index ∧ output.allowList ⊆ larger.allowList := by
  have within : ({} : Addons).Within { tracing := true } := by
    intro g enabled
    cases g
    all_goals cases enabled
  have agree : auditIndex.SupertypesAgree disputeIndex := by decide +kernel
  have agreeUnits : (auditIndex.addUnits [declaringUnit]).SupertypesAgree (disputeIndex.addUnits [declaringUnit]) := by
    decide +kernel
  obtain ⟨output, t, built⟩ := auditBuild_runs
  obtain ⟨larger, t', rebuilt⟩ := disputeBuild_runs
  have more : auditBuild.models ⊆ disputeBuild.models := List.nil_subset _
  have known : auditBuild.closure.index ≤ disputeBuild.closure.index := le_sup_left (a := auditIndex)
  have free : isFreeWord (identifierOf "flowcanon_runtime") = true := by decide
  have planned : PairsAgree (auditBuild.plannedSupertypes (.asConfigured false))
      (disputeBuild.plannedSupertypes (.asConfigured false)) := by decide +kernel
  have agreeBuilt : output.index.SupertypesAgree larger.index :=
    supertypesAgree_of_planned (BuildInput.makes_of_run built) (BuildInput.makes_of_run rebuilt) free free rfl rfl planned
  refine ⟨⟨agree, allowList_widens.1 _ _ _ _ _ agree within⟩,
    ⟨agreeUnits, allowList_widens.2.1 _ _ _ _ _ _ _ agreeUnits within⟩,
    output, t, larger, t', built, rebuilt, more, known, within, agreeBuilt, ?_⟩
  exact allowList_widens.2.2 auditBuild _ _ _ _ _ _ _ _ _ _ _ built rebuilt more known within agreeBuilt

end ProcessBuild
