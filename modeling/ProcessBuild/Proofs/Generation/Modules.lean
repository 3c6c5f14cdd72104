/-
The modules of a generated crate. Every source file of a build but the crate root becomes a module, whose name is an
identifier whatever the ids of the processes are.
- `modulePath_process`, `modulePath_events`, `modulePath_rest`, `modulePath_messaging`, `modulePath_hotReload`: the full
  paths of the modules.
- `moduleSource?_name`: the names of the modules are identifiers.
- `crateRootSource_eq`: the crate root is made wherever they are.
- `plannedModules_eq`, `distinct_moduleNames`: the modules of a build; no two of them have one name.
-/
import Mathlib.Data.List.Nodup
import ProcessBuild.Generation.Generator
import ProcessBuild.Proofs.Source.Identifiers

namespace ProcessBuild.Generation

open Source

/-! ## Paths of modules -/

theorem modulePath_process (crateName id : String) :
    modulePath crateName (processPath id) = crateName ++ "::processes_" ++ fileStem id := by
  rw [modulePath, moduleName_processPath]
  exact String.toList_inj.1 (by simp)

theorem modulePath_events (crateName id : String) :
    modulePath crateName (eventsPath id) = crateName ++ "::events_" ++ fileStem id ++ "_events" := by
  rw [modulePath, moduleName_eventsPath]
  exact String.toList_inj.1 (by simp)

theorem modulePath_rest (crateName id : String) :
    modulePath crateName (restPath id) = crateName ++ "::rest_" ++ fileStem id ++ "_resource" := by
  rw [modulePath, moduleName_restPath]
  exact String.toList_inj.1 (by simp)

theorem modulePath_messaging (crateName : String) :
    modulePath crateName messagingPath = crateName ++ "::messaging_initializer" := by
  rw [modulePath, show moduleName messagingPath = some "messaging_initializer" by decide]
  exact String.toList_inj.1 (by simp)

theorem modulePath_hotReload (crateName : String) :
    modulePath crateName hotReloadPath = crateName ++ "::hot_reload_support" := by
  rw [modulePath, show moduleName hotReloadPath = some "hot_reload_support" by decide]
  exact String.toList_inj.1 (by simp)

/-! ## Names of modules -/

theorem moduleSource?_name {g : Generator} {path : String} (h : g.moduleSource? = some path) :
    ∃ name, moduleName path = some name ∧ Identifier name := by
  cases g with
  | process id =>
    obtain rfl := Option.some.inj h
    exact ⟨_, moduleName_processPath id, identifier_processModule id⟩
  | events id =>
    obtain rfl := Option.some.inj h
    exact ⟨_, moduleName_eventsPath id, identifier_eventsModule id⟩
  | rest id =>
    obtain rfl := Option.some.inj h
    exact ⟨_, moduleName_restPath id, identifier_restModule id⟩
  | messaging =>
    obtain rfl := Option.some.inj h
    exact ⟨"messaging_initializer", by decide, identifier_of_text rfl⟩
  | hotReload =>
    obtain rfl := Option.some.inj h
    exact ⟨"hot_reload_support", by decide, identifier_of_text rfl⟩
  | crateRoot _ _ => cases h
  | manifest => cases h
  | given _ _ => cases h

theorem moduleSources_named (generators : List Generator) : ∀ path ∈ generators.filterMap Generator.moduleSource?,
    ∃ name, moduleName path = some name ∧ Identifier name := by
  intro path isSource
  obtain ⟨g, -, source⟩ := List.mem_filterMap.1 isSource
  exact moduleSource?_name source

theorem isIdentifier_of_isName {w : String} (h : IsName w.toList) : isIdentifier w = true := by
  obtain ⟨c, rest, spelled, digit⟩ := h.front
  have chars := h.chars
  rw [spelled] at chars
  unfold isIdentifier
  rw [spelled]
  refine Bool.and_eq_true_iff.2 ⟨Lexer.isWordStart_of_isNameChar (chars c List.mem_cons_self) digit, ?_⟩
  exact List.all_eq_true.2 fun x hx => Lexer.isWordRest_of_isNameChar (chars x (List.mem_cons_of_mem c hx))

theorem identifier_crateModules {sources : List String}
    (named : ∀ path ∈ sources, ∃ name, moduleName path = some name ∧ Identifier name) :
    ∀ m ∈ crateModules sources, Identifier m.2 := by
  intro m hm
  obtain ⟨path, inSources, declared⟩ := List.mem_filterMap.1 hm
  obtain ⟨name, isModule, identifier⟩ := named path inSources
  rw [isModule] at declared
  obtain rfl := Option.some.inj declared
  exact identifier

/-- **The crate root is made** wherever the modules of its sources have names. -/
theorem crateRootSource_eq {runtime : String} {sources : List String}
    (named : ∀ path ∈ sources, ∃ name, moduleName path = some name ∧ Identifier name) (ids : List String) :
    crateRootSource runtime sources ids = .ok (text (crateRootTokens runtime (crateModules sources) ids)) := by
  have usable : (crateModules sources).find? (fun m => !isIdentifier m.2) = none := by
    refine List.find?_eq_none.2 fun m hm => ?_
    rw [isIdentifier_of_isName (identifier_crateModules named m hm).name]
    exact Bool.false_ne_true
  rw [crateRootSource, usable]

/-! ## Distinct texts -/

/-- distinct texts that start with a character -/
structure Headed (head : Char) (texts : List String) : Prop where
  distinct : texts.Nodup
  starts : ∀ s ∈ texts, s.toList.head? = some head

theorem Headed.none (head : Char) : Headed head [] := ⟨List.nodup_nil, List.forall_mem_nil _⟩

theorem Headed.single {s : String} {head : Char} (starts : s.toList.head? = some head) : Headed head [s] :=
  ⟨List.nodup_singleton s, List.forall_mem_singleton.2 starts⟩

theorem Headed.ite {condition : Prop} [Decidable condition] {head : Char} {texts others : List String}
    (h : Headed head texts) (k : Headed head others) : Headed head (if condition then texts else others) := by
  split
  · exact h
  · exact k

theorem head?_append_of_some {front : String} {head : Char} (starts : front.toList.head? = some head) (back : String) :
    (front ++ back).toList.head? = some head := by
  rw [String.toList_append, List.head?_append, starts]
  rfl

theorem Headed.before {stems : List String} (distinct : stems.Nodup) {head : Char} {front : String}
    (starts : front.toList.head? = some head) : Headed head (stems.map fun stem => front ++ stem) where
  distinct := distinct.map fun _ _ same => (String.append_right_inj front).1 same
  starts := List.forall_mem_map.2 fun stem _ => head?_append_of_some starts stem

theorem Headed.around {stems : List String} (distinct : stems.Nodup) {head : Char} {front back : String}
    (starts : front.toList.head? = some head) : Headed head (stems.map fun stem => front ++ stem ++ back) where
  distinct := distinct.map fun _ _ same => (String.append_right_inj front).1 ((String.append_left_inj back).1 same)
  starts := List.forall_mem_map.2 fun stem _ => head?_append_of_some (head?_append_of_some starts stem) back

/-- texts of several groups are distinct when each group has a character of its own that they start with -/
theorem nodup_groups {groups : List (Char × List String)} (heads : (groups.map Prod.fst).Nodup)
    (h : ∀ g ∈ groups, Headed g.1 g.2) : (groups.flatMap Prod.snd).Nodup := by
  refine List.nodup_flatMap.2 ⟨fun g isGroup => (h g isGroup).distinct, ?_⟩
  refine (List.pairwise_map.1 heads).imp_of_mem fun {g other} isGroup isOther apart => ?_
  intro s inGroup inOther
  have head := ((h g isGroup).starts s inGroup).symm.trans ((h other isOther).starts s inOther)
  exact apart (Option.some.inj head)

/-! ## Modules of a build -/

/-- the modules of the crate root of a build -/
def plannedModules (input : GenerationInput) (e : Environment) (wantsRest : Bool) : List (String × String) :=
  crateModules ((discover input.models e wantsRest).filterMap Generator.moduleSource?)

/-- the modules of a build with their files, by the characters that their names start with -/
def moduleGroups (e : Environment) (wantsRest : Bool) (ids : List String) : List (Char × List (String × String)) := [
  ('p', ids.map fun id => (processPath id, "processes_" ++ fileStem id)),
  ('e', ids.map fun id => (eventsPath id, "events_" ++ fileStem id ++ "_events")),
  ('r', if wantsRest then ids.map fun id => (restPath id, "rest_" ++ fileStem id ++ "_resource") else []),
  ('m', if e.has Capability.messaging then [(messagingPath, "messaging_initializer")] else []),
  ('h', if e.liveReload then [] else [(hotReloadPath, "hot_reload_support")])]

theorem Headed.named {ids : List String} {path : String → String} (name : String → String) {head : Char}
    (h : Headed head ((ids.map fileStem).map name)) :
    Headed head ((ids.map fun id => (path id, name (fileStem id))).map Prod.snd) := by
  rw [List.map_map] at h ⊢
  exact h

theorem crateModules_append (sources others : List String) :
    crateModules (sources ++ others) = crateModules sources ++ crateModules others := List.filterMap_append

theorem crateModules_map {ids : List String} {generator : String → Generator} {path name : String → String}
    (source : ∀ id, (generator id).moduleSource? = some (path id)) (named : ∀ id, moduleName (path id) = some (name id)) :
    crateModules ((ids.map generator).filterMap Generator.moduleSource?) = ids.map fun id => (path id, name id) := by
  rw [crateModules, List.filterMap_map, List.filterMap_filterMap, ← List.filterMap_eq_map]
  refine List.filterMap_congr fun id _ => ?_
  simp only [Function.comp_apply, source, Option.bind_some, named, Option.map_some]

/-- **The modules of a build**, group by group. -/
theorem plannedModules_eq (input : GenerationInput) (e : Environment) (wantsRest : Bool) :
    plannedModules input e wantsRest = (moduleGroups e wantsRest (sortedIds input.models)).flatMap Prod.snd := by
  have processes := @crateModules_map (sortedIds input.models) .process _ _ (fun _ => rfl) moduleName_processPath
  have events := @crateModules_map (sortedIds input.models) .events _ _ (fun _ => rfl) moduleName_eventsPath
  have rest := @crateModules_map (sortedIds input.models) .rest _ _ (fun _ => rfl) moduleName_restPath
  have last : ∀ sources ids, crateModules ([Generator.crateRoot sources ids, .manifest].filterMap Generator.moduleSource?) =
      [] := fun _ _ => rfl
  unfold plannedModules discover
  simp only [List.filterMap_append, crateModules_append, processes, events, last, List.append_nil, List.append_assoc]
  simp only [moduleGroups, List.flatMap_cons, List.flatMap_nil, List.append_nil]
  refine congrArg _ (congrArg _ (congrArg₂ _ ?_ (congrArg₂ _ ?_ ?_)))
  · cases wantsRest with
    | false => rfl
    | true => exact rest
  · cases e.has Capability.messaging with
    | false => rfl
    | true => decide
  · cases e.liveReload with
    | false => decide
    | true => rfl

/-- **No two modules have one name**, unless two processes have one stem. -/
theorem distinct_moduleNames (input : GenerationInput) (e : Environment) (wantsRest : Bool)
    (distinct : ((sortedIds input.models).map fileStem).Nodup) :
    ((plannedModules input e wantsRest).map Prod.snd).Nodup := by
  have heads : ['p', 'e', 'r', 'm', 'h'].Nodup := by decide
  have names : (plannedModules input e wantsRest).map Prod.snd =
      ((moduleGroups e wantsRest (sortedIds input.models)).map fun g => (g.1, g.2.map Prod.snd)).flatMap Prod.snd := by
    rw [plannedModules_eq, List.map_flatMap, List.flatMap_map]
  rw [names]
  refine nodup_groups heads ?_
  simp only [moduleGroups, List.map_cons, List.map_nil, List.forall_mem_cons, apply_ite (List.map Prod.snd)]
  exact ⟨.named ("processes_" ++ ·) (.before distinct rfl), .named ("events_" ++ · ++ "_events") (.around distinct rfl),
    .ite (.named ("rest_" ++ · ++ "_resource") (.around distinct rfl)) (.none _), .ite (.single rfl) (.none _),
    .ite (.none _) (.single rfl), List.forall_mem_nil _⟩

end ProcessBuild.Generation
