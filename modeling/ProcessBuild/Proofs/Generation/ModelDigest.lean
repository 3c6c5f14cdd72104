/-
What the digest of the process models is taken of: the models one after the other in the order of their ids, each as one
line of JSON, with nothing between them. Two lists of models are told apart by it, down to every field of every model,
since a written object ends at its brace.
- `modelChars_inj`: models that were read, one after the other, are found again in the text of all of them.
- `modelBytes_eq_iff`: the bytes of two lists of models are the same just where their models are.
-/
import ProcessBuild.Proofs.Generation.ModelOrder
import ProcessBuild.Proofs.Json.Delimiting
import ProcessBuild.Proofs.Process.Lossless

namespace ProcessBuild

/-! ## Bytes of texts -/

namespace Sha256

theorem toList_loop (b : ByteArray) (i : Nat) (done : List UInt8) :
    ByteArray.toList.loop b i done = done.reverse ++ b.data.toList.drop i := by
  induction i, done using ByteArray.toList.loop.induct b with
  | case1 i done inside ih =>
    have bound : i < b.data.toList.length := by simpa using inside
    have byte : b.get! i = b.data.toList[i] := getElem!_pos b.data i inside
    rw [ByteArray.toList.loop, if_pos inside, ih, List.drop_eq_getElem_cons bound, byte, List.reverse_cons,
      List.append_assoc]
    rfl
  | case2 i done outside =>
    have bound : b.data.toList.length ≤ i := by simpa using outside
    rw [ByteArray.toList.loop, if_neg outside, List.drop_eq_nil_of_le bound, List.append_nil]

theorem bytesOf_eq (s : String) : bytesOf s = s.toByteArray.data.toList := by
  show ByteArray.toList.loop s.toByteArray 0 [] = _
  rw [toList_loop]
  rfl

theorem bytesOf_inj {s t : String} (same : bytesOf s = bytesOf t) : s = t := by
  rw [bytesOf_eq, bytesOf_eq] at same
  exact String.toByteArray_inj.1 (ByteArray.ext (Array.toList_inj.1 same))

theorem bytesOf_append (s t : String) : bytesOf (s ++ t) = bytesOf s ++ bytesOf t := by
  rw [bytesOf_eq, bytesOf_eq, bytesOf_eq, String.toByteArray_append, ByteArray.data_append, Array.toList_append]

/-- the bytes of texts one after the other are those of all of them as one text -/
theorem flatMap_bytesOf {α : Type} (text : α → List Char) (items : List α) :
    (items.flatMap fun a => bytesOf (String.ofList (text a))) = bytesOf (String.ofList (items.flatMap text)) := by
  induction items with
  | nil => exact (bytesOf_eq "").symm
  | cons a items ih => rw [List.flatMap_cons, List.flatMap_cons, String.ofList_append, bytesOf_append, ih]

end Sha256

/-! ## Models -/

namespace ProcessModel

/-- a model that was read, from a value that is kept in key order -/
def WasRead (m : ProcessModel) : Prop := ∃ v : Json, v.IsSorted ∧ parse v = .ok m

/-- models that were read are written differently where they differ -/
theorem toJson_inj {m n : ProcessModel} (hm : m.WasRead) (hn : n.WasRead) (same : m.toJson = n.toJson) : m = n := by
  have readBack : ∀ {m : ProcessModel}, m.WasRead → parse m.toJson = .ok m := by
    rintro m ⟨v, isSorted, accepted⟩
    exact ((codecs_lossless _ List.mem_cons_self).1 v isSorted m accepted).1
  have both := (readBack hm).symm.trans (same ▸ readBack hn)
  exact Except.ok.inj both

/-- the binary numbers of some models and those of others are printed differently where they differ -/
def FloatsApart (ms ns : List ProcessModel) : Prop :=
  ∀ m ∈ ms, ∀ n ∈ ns, Json.FloatsApart m.toJson.floats n.toJson.floats

end ProcessModel

namespace Generation

/-- the characters of models one after the other -/
def modelChars (models : List ProcessModel) : List Char := models.flatMap fun m => m.toJson.compactChars

theorem modelBytes_eq (models : List ProcessModel) :
    modelBytes models = Sha256.bytesOf (String.ofList (modelChars (modelsById models))) :=
  Sha256.flatMap_bytesOf (fun m : ProcessModel => m.toJson.compactChars) (modelsById models)

theorem endsNumber_modelChars (models : List ProcessModel) : JsonNumber.EndsNumber (modelChars models) := by
  cases models with
  | nil => exact JsonNumber.endsNumber_nil
  | cons m models => exact JsonNumber.endsNumber_cons (by decide)

/-- **Models are found again in the text of all of them**: no part of one goes over to its neighbour. -/
theorem modelChars_inj {ms ns : List ProcessModel} (hm : ∀ m ∈ ms, m.WasRead) (hn : ∀ n ∈ ns, n.WasRead)
    (apart : ProcessModel.FloatsApart ms ns) (same : modelChars ms = modelChars ns) : ms = ns := by
  induction ms generalizing ns with
  | nil =>
    cases ns with
    | nil => rfl
    | cons n ns => cases same
  | cons m ms ih =>
    cases ns with
    | nil => cases same
    | cons n ns =>
      obtain ⟨readM, readMs⟩ := List.forall_mem_cons.1 hm
      obtain ⟨readN, readNs⟩ := List.forall_mem_cons.1 hn
      obtain ⟨written, others⟩ := Json.compactChars_append_inj m.toJson n.toJson
        (apart m List.mem_cons_self n List.mem_cons_self) (endsNumber_modelChars ms) (endsNumber_modelChars ns) same
      have rest := ih readMs readNs
        (fun a inMs b inNs => apart a (List.mem_cons_of_mem _ inMs) b (List.mem_cons_of_mem _ inNs)) others
      rw [ProcessModel.toJson_inj readM readN written, rest]

/-- **The digest sees every change of a model.** The bytes that it is taken of are the same for two lists of models that
were read just where the lists, in the order of their ids, hold the same models; binary numbers are taken to be printed
differently where they differ. -/
theorem modelBytes_eq_iff {ms ns : List ProcessModel} (read : ∀ m ∈ ms ++ ns, m.WasRead)
    (apart : ProcessModel.FloatsApart ms ns) : modelBytes ms = modelBytes ns ↔
      (ms.mergeSort fun a b => a.id ≤ b.id) = ns.mergeSort fun a b => a.id ≤ b.id := by
  show _ ↔ modelsById ms = modelsById ns
  obtain ⟨hm, hn⟩ := List.forall_mem_append.1 read
  constructor
  · intro same
    rw [modelBytes_eq, modelBytes_eq] at same
    have chars := String.ofList_injective (Sha256.bytesOf_inj same)
    refine modelChars_inj (fun m h => hm m (mem_modelsById.1 h)) (fun n h => hn n (mem_modelsById.1 h)) ?_ chars
    exact fun m inMs n inNs => apart m (mem_modelsById.1 inMs) n (mem_modelsById.1 inNs)
  · intro same
    rw [modelBytes_eq, modelBytes_eq, same]

/-- a process whose metadata holds a binary number, as it is written -/
def ratedValue (id name : String) : Json :=
  .object [("id", .string id), ("metadata", .object [("rate", .number (.float ⟨0x3ff8000000000000⟩))]),
    ("name", .string name)]

/-- a process whose metadata holds a binary number -/
def ratedProcess (id name : String) : ProcessModel where
  id
  name := some name
  packageName := none
  version := none
  nodes := []
  connections := []
  vars := []
  metadata := ⟨[("rate", .other (.number (.float ⟨0x3ff8000000000000⟩)))], List.pairwise_singleton _ _⟩

theorem wasRead_ratedProcess (id name : String) (named : Text.isBlankText id = false) : (ratedProcess id name).WasRead := by
  refine ⟨ratedValue id name, ?_, ProcessModel.parse_eq_ok_iff.2 ⟨rfl, named⟩⟩
  simp only [ratedValue, Json.IsSorted, Json.MembersSorted, Json.MemberSorted, and_true, true_and]
  have keys : (["id", "metadata", "name"] : List String).Pairwise (· < ·) := by decide +kernel
  exact ⟨List.pairwise_map.1 keys, List.pairwise_singleton _ _⟩

/-- a text that goes over to the neighbour is seen -/
theorem modelBytes_shifted :
    modelBytes [ratedProcess "a" "xy", ratedProcess "b" "z"] ≠ modelBytes [ratedProcess "a" "x", ratedProcess "b" "yz"] := by
  have read : ∀ m ∈ [ratedProcess "a" "xy", ratedProcess "b" "z"] ++ [ratedProcess "a" "x", ratedProcess "b" "yz"],
      m.WasRead := by
    intro m listed
    simp only [List.cons_append, List.nil_append, List.mem_cons, List.not_mem_nil, or_false] at listed
    rcases listed with rfl | rfl | rfl | rfl
    all_goals exact wasRead_ratedProcess _ _ (by decide +kernel)
  have floats : ∀ id name, (ratedProcess id name).toJson.floats = [⟨0x3ff8000000000000⟩] := fun _ _ => rfl
  have apart : ProcessModel.FloatsApart [ratedProcess "a" "xy", ratedProcess "b" "z"]
      [ratedProcess "a" "x", ratedProcess "b" "yz"] := by
    intro m isFirst n isSecond x ofM y ofN same
    simp only [List.mem_cons, List.not_mem_nil, or_false] at isFirst isSecond
    rcases isFirst with rfl | rfl <;> rcases isSecond with rfl | rfl
    all_goals
      rw [floats, List.mem_singleton] at ofM ofN
      rw [ofM, ofN]
  have inOrder : ∀ x y, [ratedProcess "a" x, ratedProcess "b" y].mergeSort (fun a b => a.id ≤ b.id) =
      [ratedProcess "a" x, ratedProcess "b" y] := fun x y => List.mergeSort_of_pairwise (by simp [ratedProcess])
  rw [Ne, modelBytes_eq_iff read apart, inOrder, inOrder]
  simp [ratedProcess]

end Generation
end ProcessBuild
