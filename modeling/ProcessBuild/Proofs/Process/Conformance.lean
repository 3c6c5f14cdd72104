/-
Written models conform to the published schema. Fields fit the members of a schema when each member has a field whose
value it admits, or which is left out where the member may be; as the fields of an object have distinct names, an
object of such fields is admitted, whatever other fields it has. So what every node carries and what its kind adds fit
on their own. The member for its kind alone tells a node apart: exactly its own kind admits it. Sub-processes hold
nodes, and the schema of nodes refers to itself for them, so this is by induction on the nodes.
- `Fits.allows`: an object of fields that fit is admitted.
- `Activity.fits`: the fields of every kind of activity fit what the schema has for this kind.
- `Node.judges_kind`: the schema of its kind admits a node, at every depth.
- `Node.judges_other`: the schema of any other kind refuses it.
- `ProcessModel.conforms`: the schema admits every process model as it is written.
-/
import ProcessBuild.Process.Schema
import ProcessBuild.Proofs.Json.Validity
import ProcessBuild.Proofs.Process.Lossless

namespace ProcessBuild

open Json

/-- what the schema of process models says of a value under one of its schemas -/
abbrev ModelSchema.Judges (s : Schema) (v : Json) (verdict : Bool) : Prop := ProcessModel.schema.Judges s v verdict

namespace ModelSchema

open SchemaDocument

/-! ## Members -/

/-- a field is a value that a member admits, or is left out where it may be -/
def Field.Takes (f : Field) : Option Json → Prop
  | some v => Judges f.schema v true
  | none => f.required = false

section Values

variable {name meaning : String}

theorem judges_described_iff {keywords : List Keyword} {v : Json}
    (direct : keywords.findSome? Keyword.referent? = none) : Judges (described meaning keywords) v true ↔
      ∀ k ∈ keywords, ProcessModel.schema.Allows (keywords.flatMap Keyword.named) k v := by
  have noReference : (Keyword.description meaning :: keywords).findSome? Keyword.referent? = none := direct
  unfold Judges described
  rw [judges_mk_iff noReference]
  simp [Keyword.named]

@[simp]
theorem needed_name (keywords : List Keyword) : (needed name meaning keywords).name = name := rfl

@[simp]
theorem needed_takes_iff {keywords : List Keyword} {v : Json} :
    (needed name meaning keywords).Takes (some v) ↔ Judges (described meaning keywords) v true := Iff.rfl

@[simp]
theorem allowed_name (keywords : List Keyword) : (allowed name meaning keywords).name = name := rfl

@[simp]
theorem allowed_takes_none {keywords : List Keyword} : (allowed name meaning keywords).Takes none := rfl

@[simp]
theorem allowed_takes_iff {keywords : List Keyword} {v : Json} :
    (allowed name meaning keywords).Takes (some v) ↔ Judges (described meaning keywords) v true := Iff.rfl

theorem allowed_takes_map {α : Type} {keywords : List Keyword} {w : α → Json} {o : Option α}
    (each : ∀ a ∈ o, Judges (described meaning keywords) (w a) true) :
    (allowed name meaning keywords).Takes (o.map w) := by
  cases o with
  | none => exact allowed_takes_none
  | some a => exact each a rfl

theorem allowed_takes_leftOutIf {keywords : List Keyword} {v : Json} (isDefault : Bool)
    (admitted : Judges (described meaning keywords) v true) :
    (allowed name meaning keywords).Takes (leftOutIf isDefault v) := by
  cases isDefault with
  | true => exact allowed_takes_none
  | false => exact admitted

/-! ## Values -/

/-- a word admits itself alone -/
theorem judges_keyWord (w s : String) : Judges (.mk (keyWord w)) (.string s) (decide (s = w)) := by
  refine judges_of_forall fun admitsBy => ?_
  show ([w].contains s && true) = _
  simp

@[simp]
theorem judges_text (s : String) : Judges (described meaning text) (.string s) true := by
  rw [judges_described_iff rfl]
  simp [text]

@[simp]
theorem judges_textOr (default s : String) : Judges (described meaning (textOr default)) (.string s) true := by
  rw [judges_described_iff rfl]
  simp [textOr, text]

@[simp]
theorem takes_maybeText (s : Option String) : (allowed name meaning maybeText).Takes (s.map .string) := by
  apply allowed_takes_map
  intro s _
  rw [judges_described_iff rfl]
  simp [maybeText]

@[simp]
theorem judges_switch (default b : Bool) : Judges (described meaning (switch default)) (.bool b) true := by
  rw [judges_described_iff rfl]
  simp [switch]

@[simp]
theorem judges_int32 (default : Json) (i : ℤ) :
    Judges (described meaning [.types [.integer], .format "int32", .default default]) (.ofInt i) true := by
  rw [judges_described_iff rfl]
  simp [ofInt]

theorem zero_le_value (n : ℕ) : (JsonNumber.float (Number.Binary64.zero false)).value ≤ (JsonNumber.int n).value := by
  have zero : (JsonNumber.float (Number.Binary64.zero false)).value = 0 := by decide +kernel
  rw [zero, JsonNumber.value]
  exact_mod_cast Nat.zero_le n

@[simp]
theorem judges_word (n : UInt64) : Judges (described meaning word) (.ofNat n.toNat) true := by
  rw [judges_described_iff rfl]
  simp [word, ofNat, zero_le_value]

/-- any value may stand in metadata -/
theorem judges_metadataValue (v : Json) : Judges metadataValueSchema v true := by
  have anything : Judges (described "Floats, arrays, objects, null" []) v true := (judges_described_iff rfl).2 nofun
  unfold metadataValueSchema
  rw [judges_described_iff rfl, List.forall_mem_singleton]
  exact allows_anyOf (by simp) anything

@[simp]
theorem takes_metadata (m : Metadata) :
    (allowed name meaning (mapOf "MetadataValue")).Takes (leftOutIf m.isEmpty m.toJson) := by
  have admitted (v : Json) : Judges (reference "MetadataValue") v true :=
    (judges_reference_iff rfl).2 (judges_metadataValue v)
  apply allowed_takes_leftOutIf
  rw [judges_described_iff rfl]
  simp [mapOf, Metadata.toJson, admitted]

/-- a gateway is one of three, each under its own name -/
theorem judges_gateway (g : Gateway) : Judges gatewaySchema (.string g.name) true := by
  refine judges_of_forall fun _ => ?_
  cases g <;> rfl

@[simp]
theorem gatewayField_name : gatewayField.name = "gateway" := rfl

@[simp]
theorem takes_gateway (g : Gateway) : gatewayField.Takes (some (.string g.name)) := by
  have admitted : Judges (reference "GatewayType") (.string g.name) true := (judges_reference_iff rfl).2 (judges_gateway g)
  unfold gatewayField
  rw [allowed_takes_iff, judges_described_iff rfl]
  simp [admitted]

section Lists

variable {definition : String} {s : Schema} {xs : List Json}

theorem judges_listOf (found : ProcessModel.schema.definition? definition = some s)
    (each : ∀ x ∈ xs, Judges s x true) : Judges (described meaning (listOf definition)) (.array xs) true := by
  have admitted (x) (isItem : x ∈ xs) : Judges (reference definition) x true := (judges_reference_iff found).2 (each x isItem)
  rw [judges_described_iff rfl]
  simpa [listOf] using admitted

theorem judges_listOrEmpty (found : ProcessModel.schema.definition? definition = some s)
    (each : ∀ x ∈ xs, Judges s x true) : Judges (described meaning (listOrEmpty definition)) (.array xs) true := by
  have admitted : Judges (described meaning (listOf definition)) (.array xs) true := judges_listOf found each
  rw [judges_described_iff rfl] at admitted ⊢
  exact List.forall_mem_cons.2 ⟨allows_default _, admitted⟩

end Lists

end Values

/-! ## Objects -/

/-- every member of a schema has a field that it takes -/
def Fits (members : List Field) (fields : List (String × Option Json)) : Prop :=
  ∀ f ∈ members, ∃ o, (f.name, o) ∈ fields ∧ f.Takes o

section Objects

variable {members : List Field} {fields all : List (String × Option Json)}

theorem Fits.of_subset (fits : Fits members fields) (isPart : fields ⊆ all) : Fits members all := by
  intro f isMember
  obtain ⟨o, isField, taken⟩ := fits f isMember
  exact ⟨o, isPart isField, taken⟩

theorem mem_present {key : String} {v : Json} : (key, v) ∈ present fields ↔ (key, some v) ∈ fields := by
  simp [present]

/-- **What fits is admitted**: an object of fields that fit and have distinct names. -/
theorem Fits.allows (fits : Fits members fields) (nodup : (fields.map Prod.fst).Nodup) (known : List String) :
    ∀ k ∈ objectOf members, ProcessModel.schema.Allows known k (.object (present fields)) := by
  have values : ∀ f ∈ members, ∀ key v, (key, v) ∈ present fields → key = f.name → Judges f.schema v true := by
    rintro f isMember _ v isPresent rfl
    obtain ⟨o, isField, taken⟩ := fits f isMember
    obtain rfl : o = some v :=
      (member?_present nodup isField).symm.trans (member?_present nodup (mem_present.1 isPresent))
    exact taken
  have keys : ∀ name, ∀ f ∈ members, f.required = true → f.name = name → ∃ v, (name, v) ∈ present fields := by
    rintro _ f isMember needed rfl
    obtain ⟨o, isField, taken⟩ := fits f isMember
    cases o with
    | some v => exact ⟨v, mem_present.2 isField⟩
    | none => cases needed.symm.trans taken
  simpa [objectOf] using ⟨values, keys⟩

theorem Fits.judges (fits : Fits members fields) (nodup : (fields.map Prod.fst).Nodup) {meaning : String} :
    Judges (described meaning (objectOf members)) (.object (present fields)) true :=
  (judges_described_iff rfl).2 (fits.allows nodup _)

theorem judges_object_false {meaning : String} {f : Field} {v : Json} (isMember : f ∈ members)
    (isField : (f.name, some v) ∈ fields) (refused : Judges f.schema v false) :
    Judges (described meaning (objectOf members)) (.object (present fields)) false :=
  judges_false_of_property rfl (List.mem_cons_of_mem _ (List.mem_cons_of_mem _ List.mem_cons_self))
    (List.mem_map_of_mem isMember) (mem_present.2 isField) rfl refused

end Objects

end ModelSchema

open ModelSchema SchemaDocument

/-! ## Variables, connections and constraints -/

theorem Variable.judges_toJson (v : Variable) : ModelSchema.Judges variableSchema v.toJson true := by
  rw [v.toJson_eq]
  apply Fits.judges
  · simp [Fits, fields]
  · simp [fields]

theorem Connection.judges_toJson (c : Connection) : ModelSchema.Judges connectionSchema c.toJson true := by
  rw [c.toJson_eq]
  apply Fits.judges
  · simp [Fits, fields]
  · simp [fields]

theorem Constraint.judges_toJson (c : Constraint) : ModelSchema.Judges constraintSchema c.toJson true := by
  rw [c.toJson_eq]
  apply Fits.judges
  · simp [Fits, fields]
  · simp [fields]

section Lists

variable {name meaning : String}

@[simp]
theorem judges_variables (vs : List Variable) :
    ModelSchema.Judges (described meaning (listOrEmpty "Variable")) (.array (vs.map Variable.toJson)) true :=
  judges_listOrEmpty rfl (List.forall_mem_map.2 fun v _ => v.judges_toJson)

@[simp]
theorem takes_connections (cs : List Connection) : (allowed name meaning (listOf "Connection")).Takes
    (leftOutIf cs.isEmpty (.array (cs.map Connection.toJson))) :=
  allowed_takes_leftOutIf _ (judges_listOf rfl (List.forall_mem_map.2 fun c _ => c.judges_toJson))

@[simp]
theorem takes_constraints (cs : List Constraint) : (allowed name meaning (listOf "Constraint")).Takes
    (leftOutIf cs.isEmpty (.array (cs.map Constraint.toJson))) :=
  allowed_takes_leftOutIf _ (judges_listOf rfl (List.forall_mem_map.2 fun c _ => c.judges_toJson))

/-- the variables of a node, which a node may have none of or an empty list -/
@[simp]
theorem takes_scope (vs : Option (List Variable)) :
    (allowed name meaning [.types [.array, .null], .items (reference "Variable")]).Takes
      (vs.map fun vs => .array (vs.map Variable.toJson)) := by
  apply allowed_takes_map
  intro vs _
  have admitted (v : Variable) : ModelSchema.Judges (reference "Variable") v.toJson true :=
    (judges_reference_iff rfl).2 v.judges_toJson
  rw [judges_described_iff rfl]
  simp [admitted]

end Lists

/-! ## Nodes -/

/-- **Every kind of activity** has the fields that the schema of the kind takes. -/
theorem Activity.fits (a : Activity) : Fits (kindFields a.kind) a.fields := by
  cases a with
  | start trigger => simp [Fits, kind, kindFields, fields]
  | finish terminate => simp [Fits, kind, kindFields, fields]
  | action dialect script => simp [Fits, kind, kindFields, fields]
  | workItem workName parameters => simp [Fits, kind, kindFields, fields]
  | humanTask taskName actorId groupId => simp [Fits, kind, kindFields, fields]
  | split gateway constraints => simp [Fits, kind, kindFields, fields]
  | join gateway => simp [Fits, kind, kindFields, fields]
  | event eventType variableName => simp [Fits, kind, kindFields, fields]
  | timer delay period => simp [Fits, kind, kindFields, fields]
  | boundaryEvent eventType attachedTo cancelActivity => simp [Fits, kind, kindFields, fields]

theorem NodeKind.ofName?_name (k : NodeKind) : ofName? k.name = some k := by cases k <;> rfl

theorem NodeKind.name_injective : Function.Injective name := by
  intro k l same
  exact Option.some.inj (k.ofName?_name.symm.trans (same ▸ l.ofName?_name))

namespace Node

variable {n : Node}

theorem type_mem_fields (n : Node) : ("type", some (Json.string n.kind.name)) ∈ n.fields := by
  cases n <;> simp [fields, kind]

theorem info_subset_fields (n : Node) : n.info.fields ⊆ n.fields := by
  cases n with
  | activity info a => exact List.subset_append_left _ _
  | subProcess info nodes connections autoComplete => exact List.subset_append_left _ _

/-- a node of another kind is refused for the member that names its kind -/
theorem judges_other {k : NodeKind} (other : k ≠ n.kind) : ModelSchema.Judges (kindSchema k) n.toJson false := by
  have otherName : n.kind.name ≠ k.name := fun same => other (NodeKind.name_injective same).symm
  have refused := judges_keyWord k.name n.kind.name
  rw [decide_eq_false otherName] at refused
  rw [n.toJson_eq]
  exact judges_object_false List.mem_cons_self n.type_mem_fields refused

theorem judges_kind_of_fits (fits : Fits (kindFields n.kind) n.fields) :
    ModelSchema.Judges (kindSchema n.kind) n.toJson true := by
  rw [n.toJson_eq]
  apply Fits.judges _ n.nodup_fields
  have ofType : ModelSchema.Judges (.mk (keyWord n.kind.name)) (.string n.kind.name) true := by
    simpa using judges_keyWord n.kind.name n.kind.name
  exact List.forall_mem_cons.2 ⟨⟨_, n.type_mem_fields, ofType⟩, fits⟩

/-- what the schema of a kind says of a node that the schema of its own kind admits -/
theorem judges_kindSchema (ofKind : ModelSchema.Judges (kindSchema n.kind) n.toJson true) (k : NodeKind) :
    ModelSchema.Judges (kindSchema k) n.toJson (decide (k = n.kind)) := by
  by_cases same : k = n.kind
  · simpa [same] using ofKind
  · simpa [same] using judges_other same

/-- a node is admitted when the schema of its kind admits it -/
theorem judges_of_kind (ofKind : ModelSchema.Judges (kindSchema n.kind) n.toJson true) :
    ModelSchema.Judges nodeSchema n.toJson true := by
  have one : (NodeKind.all.map fun k => decide (k = n.kind)).count true = 1 := by cases n.kind <;> rfl
  refine (judges_described_iff rfl).2 (List.forall_mem_cons.2 ⟨?_, ?_⟩)
  · exact allows_oneOf (fun k _ => judges_kindSchema ofKind k) one
  · rw [n.toJson_eq]
    apply Fits.allows _ n.nodup_fields
    apply Fits.of_subset _ n.info_subset_fields
    simp [Fits, NodeInfo.fields]

theorem judges_listOfNodes {nodes : List Node} (each : ∀ v ∈ nodesToJson nodes, ModelSchema.Judges nodeSchema v true)
    {meaning : String} : ModelSchema.Judges (described meaning (listOrEmpty "Node")) (.array (nodesToJson nodes)) true :=
  judges_listOrEmpty rfl each

mutual

/-- **Every node** is admitted by the schema of its kind. -/
theorem judges_kind (n : Node) : ModelSchema.Judges (kindSchema n.kind) n.toJson true := by
  match n with
  | .activity info a =>
    apply judges_kind_of_fits
    exact a.fits.of_subset (List.subset_append_of_subset_right _ (List.subset_cons_self _ _))
  | .subProcess info nodes connections autoComplete =>
    apply judges_kind_of_fits
    simp [Fits, kind, kindFields, fields, judges_listOfNodes (judges_nodes nodes)]

theorem judges_nodes (nodes : List Node) : ∀ v ∈ nodesToJson nodes, ModelSchema.Judges nodeSchema v true := by
  match nodes with
  | [] => exact nofun
  | n :: rest =>
    rw [nodesToJson]
    exact List.forall_mem_cons.2 ⟨judges_of_kind (judges_kind n), judges_nodes rest⟩

end

end Node

/-! ## Process models -/

theorem ProcessModel.nodup_fields (m : ProcessModel) : (m.fields.map Prod.fst).Nodup := by simp [fields]

/-- **Written models conform to the schema.** The schema of process models admits every process model as it is written.
Of the kinds of nodes exactly the own one admits a node, wherever it stands, and with it the schema of nodes does. -/
theorem ProcessModel.conforms (m : ProcessModel) : ModelSchema.Judges schema.root m.toJson true ∧
    ∀ n : Node, ModelSchema.Judges nodeSchema n.toJson true ∧
      ∀ k, ModelSchema.Judges (kindSchema k) n.toJson (decide (k = n.kind)) := by
  constructor
  · rw [m.toJson_eq]
    apply Fits.judges _ m.nodup_fields
    simp [Fits, fields, Node.judges_listOfNodes (Node.judges_nodes m.nodes)]
  · intro n
    exact ⟨Node.judges_of_kind n.judges_kind, Node.judges_kindSchema n.judges_kind⟩

/-- the schema refuses a process whose id is a number -/
example : ModelSchema.Judges ProcessModel.schema.root (.object [("id", .ofInt 7)]) false :=
  judges_of_forall fun _ => rfl

end ProcessBuild
