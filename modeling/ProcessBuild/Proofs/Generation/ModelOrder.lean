/-
The models of a build by their ids. Generators look models up by id and list them in the order of their ids; where the
ids are distinct, neither tells in which order the models were given.
- `model?_eq_some_iff`: among models of distinct ids, the model of an id is the one that carries it.
- `sortedIds_eq`: the ids in order are those of the models in order.
- `sortedIds_of_perm`, `modelsById_of_perm`, `model?_of_perm`: what is left of the order in which models are given.
-/
import Mathlib.Data.List.Nodup
import ProcessBuild.Generation.Generator

namespace ProcessBuild

/-! ## Looking models up -/

namespace GenerationInput

variable {input : GenerationInput} {id : String} {m : ProcessModel}

theorem mem_of_model? (h : input.model? id = some m) : m ∈ input.models := List.mem_of_find?_eq_some h

theorem id_of_model? (h : input.model? id = some m) : m.id = id :=
  of_decide_eq_true (List.find?_some (p := fun m : ProcessModel => m.id = id) h)

theorem exists_model? (h : m ∈ input.models) : ∃ first, input.model? m.id = some first :=
  Option.isSome_iff_exists.1 (List.find?_isSome.2 ⟨m, h, decide_eq_true rfl⟩)

/-- among models of distinct ids, the model of an id is the one that carries it -/
theorem model?_eq_some_iff (distinct : (input.models.map (·.id)).Nodup) :
    input.model? id = some m ↔ m ∈ input.models ∧ m.id = id := by
  refine ⟨fun h => ⟨mem_of_model? h, id_of_model? h⟩, ?_⟩
  rintro ⟨isModel, rfl⟩
  obtain ⟨first, found⟩ := exists_model? isModel
  rw [found, List.inj_on_of_nodup_map distinct (mem_of_model? found) isModel (id_of_model? found)]

/-- the models of distinct ids may be given in any order -/
theorem model?_of_perm {models : List ProcessModel} (reordered : input.models.Perm models)
    (distinct : (input.models.map (·.id)).Nodup) (id : String) :
    ({ input with models } : GenerationInput).model? id = input.model? id := by
  have distinct' : (models.map (·.id)).Nodup := (reordered.map _).nodup_iff.1 distinct
  refine Option.ext fun m => ?_
  rw [model?_eq_some_iff distinct, @model?_eq_some_iff { input with models } id m distinct', reordered.mem_iff]

end GenerationInput

namespace Generation

/-! ## Sorting models -/

theorem mem_modelsById {models : List ProcessModel} {m : ProcessModel} : m ∈ modelsById models ↔ m ∈ models :=
  List.mem_mergeSort

theorem modelsById_perm (models : List ProcessModel) : (modelsById models).Perm models := List.mergeSort_perm _ _

theorem ascending_modelsById (models : List ProcessModel) : (modelsById models).Pairwise fun a b => a.id ≤ b.id := by
  refine (List.pairwise_mergeSort (fun a b c hab hbc => ?_) (fun a b => ?_) models).imp of_decide_eq_true
  · exact decide_eq_true (String.le_trans (of_decide_eq_true hab) (of_decide_eq_true hbc))
  · rw [Bool.or_eq_true, decide_eq_true_eq, decide_eq_true_eq]
    exact String.le_total a.id b.id

/-- **The ids in order** are those of the models in order. -/
theorem sortedIds_eq (models : List ProcessModel) : sortedIds models = (modelsById models).map (·.id) := by
  unfold sortedIds modelsById
  exact (List.map_mergeSort (f := fun m : ProcessModel => m.id) fun _ _ _ _ => rfl).symm

theorem mem_sortedIds {models : List ProcessModel} {id : String} : id ∈ sortedIds models ↔ ∃ m ∈ models, m.id = id := by
  rw [sortedIds, List.mem_mergeSort, List.mem_map]

theorem ascending_sortedIds (models : List ProcessModel) : (sortedIds models).Pairwise (· ≤ ·) := by
  rw [sortedIds_eq]
  exact List.pairwise_map.2 (ascending_modelsById models)

/-- models of distinct ids are sorted alike in whatever order they are given -/
theorem modelsById_of_perm {models others : List ProcessModel} (reordered : models.Perm others)
    (distinct : (models.map (·.id)).Nodup) : modelsById models = modelsById others := by
  have sorted := (modelsById_perm models).trans (reordered.trans (modelsById_perm others).symm)
  refine sorted.eq_of_pairwise (fun a b ha hb hab hba => ?_) (ascending_modelsById models) (ascending_modelsById others)
  have isModel : b ∈ models := reordered.mem_iff.2 (mem_modelsById.1 hb)
  exact List.inj_on_of_nodup_map distinct (mem_modelsById.1 ha) isModel (String.le_antisymm hab hba)

/-- ids are sorted alike in whatever order models are given -/
theorem sortedIds_of_perm {models others : List ProcessModel} (reordered : models.Perm others) :
    sortedIds models = sortedIds others := by
  have sorted : (sortedIds models).Perm (sortedIds others) :=
    (List.mergeSort_perm _ _).trans ((reordered.map _).trans (List.mergeSort_perm _ _).symm)
  exact sorted.eq_of_pairwise (fun _ _ _ _ => String.le_antisymm) (ascending_sortedIds models) (ascending_sortedIds others)

/-! ## Generators -/

/-- **A generator** makes the same artifacts in whatever order models of distinct ids are given. -/
theorem output_of_perm {input : GenerationInput} {models : List ProcessModel} (reordered : input.models.Perm models)
    (distinct : (input.models.map (·.id)).Nodup) (g : Generator) :
    g.output { input with models } = g.output input := by
  have found := GenerationInput.model?_of_perm reordered distinct
  have sorted := modelsById_of_perm reordered distinct
  cases g with
  | process id => simp only [Generator.output, Generator.ofModel, found]
  | events id =>
    simp only [Generator.output, Generator.ofModel, found]
    rfl
  | rest id =>
    simp only [Generator.output, Generator.ofModel, found]
    rfl
  | messaging => rfl
  | hotReload => simp only [Generator.output, hotReloadSource, modelBytes, sorted]
  | crateRoot sources ids => rfl
  | manifest => simp only [Generator.output, manifestText, sorted]
  | given name artifacts => rfl

/-- the same generators are found in whatever order models are given -/
theorem discover_of_perm {models others : List ProcessModel} (reordered : models.Perm others) (e : Environment)
    (wantsRest : Bool) : discover models e wantsRest = discover others e wantsRest := by
  rw [discover, discover, sortedIds_of_perm reordered]

/-- **Generation** comes out the same in whatever order models of distinct ids are given. -/
theorem run_discover_of_perm {input : GenerationInput} {models : List ProcessModel}
    (reordered : input.models.Perm models) (distinct : (input.models.map (·.id)).Nodup) (e : Environment)
    (wantsRest : Bool) :
    run (discover models e wantsRest) { input with models } = run (discover input.models e wantsRest) input := by
  have outputs : ∀ generators : List Generator, run generators { input with models } = run generators input := by
    intro generators
    unfold run
    simp only [output_of_perm reordered distinct]
  rw [outputs, discover_of_perm reordered]

end Generation
end ProcessBuild
