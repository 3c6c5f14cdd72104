/-
Reading back the parts of a process model. The fields of a part are its members with those that are left out; their
keys are distinct, those of a node and of its kind together, so no member of a node stands for one of its kind. From
the arranged members each part is read as it was written. Metadata keeps any JSON value, so it is read back where each
of its values is (`Metadata.ReadBack`), which is so of what was read from values that are kept.
- `Variable.read_toJson`, `Connection.read_toJson`, `Constraint.read_toJson`: the parts without metadata.
- `Metadata.readBack_of_read`: metadata that was read is read back.
- `NodeInfo.read_fields`, `Activity.read_fields`: what a node carries and what its kind adds.
-/
import ProcessBuild.Process.Codec
import ProcessBuild.Proofs.Json.Fields

namespace ProcessBuild

open Decode Json

/-! ## Fields -/

def Variable.fields (v : Variable) : List (String × Option Json) :=
  [("name", some (.string v.name)), ("type", some (.string v.typeName)), ("tags", v.tags.map .string)]

def Connection.fields (c : Connection) : List (String × Option Json) :=
  [("from", some (.ofNat c.source.toNat)), ("to", some (.ofNat c.target.toNat)), ("id", c.id.map .string)]

def Constraint.fields (c : Constraint) : List (String × Option Json) :=
  [("toNode", some (.ofNat c.target.toNat)), ("name", c.name.map .string), ("dialect", some (.string c.dialect)),
    ("expression", some (.string c.expression)), ("priority", some (.ofInt c.priority.toInt))]

/-- the fields of a node that do not depend on its kind -/
def NodeInfo.fields (n : NodeInfo) : List (String × Option Json) :=
  [("id", some (.ofNat n.id.toNat)), ("name", n.name.map .string),
    ("metadata", leftOutIf n.metadata.isEmpty n.metadata.toJson),
    ("variables", n.vars.map fun vs => .array (vs.map Variable.toJson))]

def Activity.fields : Activity → List (String × Option Json)
  | start trigger => [("trigger", trigger.map .string)]
  | finish terminate => [("terminate", some (.bool terminate))]
  | action dialect script => [("dialect", some (.string dialect)), ("script", some (.string script))]
  | workItem workName parameters =>
    [("workName", some (.string workName)), ("parameters", leftOutIf parameters.isEmpty parameters.toJson)]
  | humanTask taskName actorId groupId =>
    [("taskName", some (.string taskName)), ("actorId", actorId.map .string), ("groupId", groupId.map .string)]
  | split gateway constraints =>
    [("gateway", some (.string gateway.name)),
      ("constraints", leftOutIf constraints.isEmpty (.array (constraints.map Constraint.toJson)))]
  | join gateway => [("gateway", some (.string gateway.name))]
  | event eventType variableName =>
    [("eventType", some (.string eventType)), ("variableName", variableName.map .string)]
  | timer delay period => [("delay", delay.map .string), ("period", period.map .string)]
  | boundaryEvent eventType attachedTo cancelActivity =>
    [("eventType", some (.string eventType)), ("attachedTo", some (.string attachedTo)),
      ("cancelActivity", some (.bool cancelActivity))]

section Written

theorem optionalMember_eq (key : String) (value : Option String) :
    optionalMember key value = present [(key, value.map .string)] := present_toList key .string value

theorem listMember_eq {α : Type} (key : String) (w : α → Json) (items : List α) :
    listMember key w items = present [(key, leftOutIf items.isEmpty (.array (items.map w)))] := by
  cases items with
  | nil => rfl
  | cons item rest => rfl

theorem metadataMember_eq (key : String) (m : Metadata) :
    metadataMember key m = present [(key, leftOutIf m.isEmpty m.toJson)] := present_leftOutIf key m.isEmpty m.toJson

theorem Variable.toJson_eq (v : Variable) : v.toJson = .object (present v.fields) := by
  obtain ⟨name, typeName, tags⟩ := v
  cases tags with
  | none => rfl
  | some tags => rfl

theorem Connection.toJson_eq (c : Connection) : c.toJson = .object (present c.fields) := by
  obtain ⟨source, target, id⟩ := c
  cases id with
  | none => rfl
  | some id => rfl

theorem Constraint.toJson_eq (c : Constraint) : c.toJson = .object (present c.fields) := by
  obtain ⟨target, name, dialect, expression, priority⟩ := c
  cases name with
  | none => rfl
  | some name => rfl

theorem NodeInfo.members_eq (n : NodeInfo) : n.members = present n.fields := by
  rw [members, optionalMember_eq, metadataMember_eq, present_toList]
  show present [("id", some _)] ++ present [_] ++ present [_] ++ present [_] = _
  rw [← present_append, ← present_append, ← present_append]
  rfl

theorem Activity.members_eq (a : Activity) : a.members = present a.fields := by
  cases a with
  | start trigger => exact optionalMember_eq "trigger" trigger
  | finish terminate => rfl
  | action dialect script => rfl
  | workItem workName parameters =>
    rw [members, metadataMember_eq]
    rfl
  | humanTask taskName actorId groupId =>
    rw [members, optionalMember_eq, optionalMember_eq]
    show present [("taskName", some _)] ++ present [_] ++ present [_] = _
    rw [← present_append, ← present_append]
    rfl
  | split gateway constraints =>
    rw [members, listMember_eq]
    rfl
  | join gateway => rfl
  | event eventType variableName =>
    rw [members, optionalMember_eq]
    rfl
  | timer delay period =>
    rw [members, optionalMember_eq, optionalMember_eq, ← present_append]
    rfl
  | boundaryEvent eventType attachedTo cancelActivity => rfl

end Written

section ReadBack

variable {f : Json → Json} (arranges : Arranges f) (origin : Origin)

include arranges

/-! ## Variables, connections and constraints -/

theorem Variable.read_toJson (v : Variable) : Variable.ofJson origin (f v.toJson) = .ok v := by
  obtain ⟨ms, arranged, found⟩ := arranges.object_present v.fields (by simp [fields])
  rw [toJson_eq, arranged, Variable.ofJson]
  obtain ⟨name, typeName, tags⟩ := v
  simp only [fields, List.forall_mem_cons] at found
  obtain ⟨hasName, hasType, hasTags, -⟩ := found
  obtain ⟨_, tagsRead, rfl⟩ := member_optional hasTags (optional_string_read arranges)
  rw [member_read hasName (string_read arranges name), tagsRead, member_read hasType (string_read arranges typeName)]
  rfl

theorem Connection.read_toJson (c : Connection) : Connection.ofJson origin (f c.toJson) = .ok c := by
  obtain ⟨ms, arranged, found⟩ := arranges.object_present c.fields (by simp [fields])
  rw [toJson_eq, arranged, Connection.ofJson]
  obtain ⟨source, target, id⟩ := c
  simp only [fields, List.forall_mem_cons] at found
  obtain ⟨hasSource, hasTarget, hasId, -⟩ := found
  obtain ⟨_, idRead, rfl⟩ := member_optional hasId (optional_string_read arranges)
  rw [member_read hasSource (word64_read arranges source), idRead, member_read hasTarget (word64_read arranges target)]
  rfl

theorem Constraint.read_toJson (c : Constraint) : Constraint.ofJson (f c.toJson) = .ok c := by
  obtain ⟨ms, arranged, found⟩ := arranges.object_present c.fields (by simp [fields])
  rw [toJson_eq, arranged, Constraint.ofJson]
  obtain ⟨target, name, dialect, expression, priority⟩ := c
  simp only [fields, List.forall_mem_cons] at found
  obtain ⟨hasTarget, hasName, hasDialect, hasExpression, hasPriority, -⟩ := found
  obtain ⟨_, nameRead, rfl⟩ := member_optional hasName (optional_string_read arranges)
  rw [member_read hasDialect (string_read arranges dialect), member_read hasExpression (string_read arranges expression),
    nameRead, member_read hasPriority (int32_read arranges priority), member_read hasTarget (word64_read arranges target)]
  rfl

/-! ## Names of gateways and kinds -/

theorem Gateway.read_name (g : Gateway) : Gateway.ofJson (f (.string g.name)) = .ok g := by
  rw [arranges.string]
  cases g <;> rfl

theorem NodeKind.read_name (k : NodeKind) : NodeKind.ofJson (f (.string k.name)) = .ok k := by
  rw [arranges.string]
  cases k <;> rfl

end ReadBack

/-! ## Metadata -/

/-- every value is read as itself from its arranged form -/
def Metadata.ReadBack (f : Json → Json) (m : Metadata) : Prop := ∀ e ∈ m.entries, MetadataValue.ofJson (f e.2.toJson) = e.2

theorem Metadata.readBack_empty (f : Json → Json) : Metadata.ReadBack f NameMap.empty :=
  fun _ h => (List.not_mem_nil h).elim

/-- a metadata value stands for the JSON value that it was read from -/
theorem MetadataValue.toJson_ofJson (v : Json) : (ofJson v).toJson = v := by
  unfold ofJson
  split
  · rfl
  · rename_i i
    split
    · rename_i fits
      exact congrArg Json.ofInt (Int32.toInt_ofInt_of_le fits.1 (by omega))
    · split
      · rename_i fits
        exact congrArg Json.ofInt (Int64.toInt_ofInt_of_le fits.1 (by omega))
      · rfl
  · rfl
  · rfl

section ReadMetadata

variable {f : Json → Json} (arranges : Arranges f)

include arranges

theorem Metadata.read_toJson {m : Metadata} (readBack : m.ReadBack f) : Metadata.ofJson (f m.toJson) = .ok m :=
  nameMap_read arranges fun e he => congrArg Except.ok (readBack e he)

/-- **Metadata that was read** from a value in key order is read back. -/
theorem Metadata.readBack_of_read {v : Json} (isSorted : v.IsSorted) : Yields (ReadBack f) (Metadata.ofJson v) := by
  intro m read e he
  cases v with
  | object ms =>
    obtain ⟨entries, made, rfl⟩ := map_eq_ok_iff.1 read
    obtain ⟨⟨key, value⟩, isMember, made⟩ :=
      exists_of_mem_right (mapM_eq_ok_iff.1 made) (NameMap.mem_of_mem_ofList he)
    obtain rfl := Except.ok.inj made
    rw [IsSorted, membersSorted_iff] at isSorted
    show MetadataValue.ofJson (f (MetadataValue.ofJson value).toJson) = MetadataValue.ofJson value
    rw [MetadataValue.toJson_ofJson, arranges.kept value (isSorted.2 _ isMember)]
  | _ => cases read

theorem Metadata.readBack_of_member {ms : List (String × Json)} (isSorted : MembersSorted ms) (key : String) :
    Yields (fun o => ReadBack f (o.getD NameMap.empty)) (member ms key Metadata.ofJson) :=
  .member (readBack_empty f) fun m isMember => readBack_of_read arranges (membersSorted_iff.1 isSorted m isMember)

/-! ## What a node carries -/

theorem NodeInfo.read_fields (origin : Origin) {n : NodeInfo} (readBack : n.metadata.ReadBack f) {ms : List (String × Json)}
    (found : ∀ e ∈ n.fields, member? e.1 ms = e.2.map f) : NodeInfo.ofMembers origin ms = .ok n := by
  obtain ⟨id, name, metadata, vars⟩ := n
  simp only [fields, List.forall_mem_cons] at found
  obtain ⟨hasId, hasName, hasMetadata, hasVars, -⟩ := found
  have varsRead : ∀ vs : List Variable,
      optional (variablesOfJson origin) (f (.array (vs.map Variable.toJson))) = .ok (some vs) :=
    fun vs => optional_list_read arranges fun v _ => v.read_toJson arranges origin
  obtain ⟨_, metadataRead, rfl⟩ := member_default hasMetadata (Metadata.read_toJson arranges readBack)
    NameMap.eq_empty_of_isEmpty
  obtain ⟨_, nameRead, rfl⟩ := member_optional hasName (optional_string_read arranges)
  obtain ⟨_, varsRead, rfl⟩ := member_optional hasVars varsRead
  rw [NodeInfo.ofMembers, member_read hasId (word64_read arranges id), metadataRead, nameRead, varsRead]
  rfl

theorem NodeInfo.readBack_of_read {origin : Origin} {ms : List (String × Json)} (isSorted : MembersSorted ms) :
    Yields (fun n : NodeInfo => n.metadata.ReadBack f) (NodeInfo.ofMembers origin ms) := by
  refine .bind fun _ _ => .bind fun metadata metadataRead => .bind fun _ _ => .bind fun _ _ => .bind fun _ _ => ?_
  exact .ok (Metadata.readBack_of_member arranges isSorted "metadata" metadata metadataRead)

/-! ## What a kind adds -/

/-- the parameters of an activity are read back -/
def Activity.ReadBack (f : Json → Json) : Activity → Prop
  | workItem _ parameters => parameters.ReadBack f
  | _ => True

/-- **The fields of an activity** are read as the activity. -/
theorem Activity.read_fields {a : Activity} (readBack : a.ReadBack f) {ms : List (String × Json)}
    (found : ∀ e ∈ a.fields, member? e.1 ms = e.2.map f) : Activity.ofMembers? ms a.kind = some (.ok a) := by
  -- for each kind, its members are found one by one, and the optional ones may be missing
  cases a <;> simp only [fields, List.forall_mem_cons] at found
  case start trigger =>
    obtain ⟨_, triggerRead, rfl⟩ := member_optional found.1 (optional_string_read arranges)
    rw [kind, ofMembers?, triggerRead]
    rfl
  case finish terminate =>
    rw [kind, ofMembers?, member_read found.1 (bool_read arranges terminate)]
    rfl
  case action dialect script =>
    obtain ⟨hasDialect, hasScript, -⟩ := found
    rw [kind, ofMembers?, member_read hasDialect (string_read arranges dialect),
      member_read hasScript (string_read arranges script)]
    rfl
  case workItem workName parameters =>
    obtain ⟨hasName, hasParameters, -⟩ := found
    obtain ⟨_, parametersRead, rfl⟩ := member_default hasParameters (Metadata.read_toJson arranges readBack)
      NameMap.eq_empty_of_isEmpty
    rw [kind, ofMembers?, parametersRead, member_read hasName (string_read arranges workName)]
    rfl
  case humanTask taskName actorId groupId =>
    obtain ⟨hasName, hasActor, hasGroup, -⟩ := found
    obtain ⟨_, actorRead, rfl⟩ := member_optional hasActor (optional_string_read arranges)
    obtain ⟨_, groupRead, rfl⟩ := member_optional hasGroup (optional_string_read arranges)
    rw [kind, ofMembers?, actorRead, groupRead, member_read hasName (string_read arranges taskName)]
    rfl
  case split gateway constraints =>
    obtain ⟨hasGateway, hasConstraints, -⟩ := found
    obtain ⟨_, constraintsRead, rfl⟩ := member_default hasConstraints
      (list_read arranges fun c _ => c.read_toJson arranges) List.isEmpty_iff.1
    rw [kind, ofMembers?, constraintsRead, member_read hasGateway (gateway.read_name arranges)]
    rfl
  case join gateway =>
    rw [kind, ofMembers?, member_read found.1 (gateway.read_name arranges)]
    rfl
  case event eventType variableName =>
    obtain ⟨hasType, hasVariable, -⟩ := found
    obtain ⟨_, variableRead, rfl⟩ := member_optional hasVariable (optional_string_read arranges)
    rw [kind, ofMembers?, member_read hasType (string_read arranges eventType), variableRead]
    rfl
  case timer delay period =>
    obtain ⟨hasDelay, hasPeriod, -⟩ := found
    obtain ⟨_, delayRead, rfl⟩ := member_optional hasDelay (optional_string_read arranges)
    obtain ⟨_, periodRead, rfl⟩ := member_optional hasPeriod (optional_string_read arranges)
    rw [kind, ofMembers?, delayRead, periodRead]
    rfl
  case boundaryEvent eventType attachedTo cancelActivity =>
    obtain ⟨hasType, hasAttached, hasCancel, -⟩ := found
    rw [kind, ofMembers?, member_read hasAttached (string_read arranges attachedTo),
      member_read hasCancel (bool_read arranges cancelActivity), member_read hasType (string_read arranges eventType)]
    rfl

theorem Activity.readBack_of_read {kind : NodeKind} {ms : List (String × Json)} (isSorted : MembersSorted ms)
    {read : Decoded Activity} (isActivity : Activity.ofMembers? ms kind = some read) : Yields (ReadBack f) read := by
  cases kind <;> cases isActivity
  case workItem =>
    refine .bind fun parameters parametersRead => .bind fun _ _ => .bind fun _ _ => ?_
    exact .ok (Metadata.readBack_of_member arranges isSorted "parameters" parameters parametersRead)
  -- no other kind has parameters
  all_goals
    repeat refine .bind fun _ _ => ?_
    exact .ok trivial

end ReadMetadata

end ProcessBuild
