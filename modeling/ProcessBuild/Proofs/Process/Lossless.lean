/-
Nothing is lost on the way through JSON. A process model, an environment descriptor or a dependency closure that was
read from a value is written and read again as itself, whether the members that were written stay in their order or are
put in key order.
- `Node.read_toJson`: a node is read back when the metadata in it is, at every depth.
- `Node.readBack_of_read`: the metadata of a node that was read is read back, at every depth.
- `codecs_lossless`: what was read from a value that is kept in key order is written and read again as itself.
- `Lossless.read_text`: that is so of whatever is read from a text.
-/
import ProcessBuild.Proofs.Environment.Fields
import ProcessBuild.Proofs.Json.Reading
import ProcessBuild.Proofs.Process.Fields
import ProcessBuild.Proofs.TypeIndex.Fields

namespace ProcessBuild

open Decode Json

/-! ## Nodes -/

def Node.fields : Node → List (String × Option Json)
  | .activity info a => info.fields ++ ("type", some (.string a.kind.name)) :: a.fields
  | .subProcess info nodes connections autoComplete =>
    info.fields ++ [("type", some (.string NodeKind.subProcess.name)), ("nodes", some (.array (nodesToJson nodes))),
      ("connections", leftOutIf connections.isEmpty (.array (connections.map Connection.toJson))),
      ("autoComplete", some (.bool autoComplete))]

theorem Node.toJson_eq (n : Node) : n.toJson = .object (present n.fields) := by
  cases n with
  | activity info a =>
    rw [toJson, fields, present_append, ← info.members_eq, present_cons, ← a.members_eq]
    rfl
  | subProcess info nodes connections autoComplete =>
    rw [toJson, fields, present_append, ← info.members_eq, listMember_eq, List.append_assoc]
    cases connections with
    | nil => rfl
    | cons c rest => rfl

/-- the member for the kind of a node and those that it carries are none of those that its kind adds -/
theorem Node.nodup_fields (n : Node) : (n.fields.map Prod.fst).Nodup := by
  cases n with
  | activity info a => cases a <;> simp [fields, NodeInfo.fields, Activity.fields]
  | subProcess info nodes connections autoComplete => simp [fields, NodeInfo.fields]

theorem nestedIn_eq (ms : List (String × Json)) : nestedIn ms = (member? "nodes" ms).map (nodesOfJson .buffered) := by
  induction ms with
  | nil => rw [nestedIn]; rfl
  | cons m ms ih =>
    obtain ⟨k, v⟩ := m
    rw [nestedIn, nestedMember, member?_cons]
    by_cases named : k = "nodes"
    · rw [if_pos named, if_pos named]
      rfl
    · rw [if_neg named, if_neg named]
      exact ih

mutual

/-- the metadata of a node and of the nodes inside it is read back -/
def Node.ReadBack (f : Json → Json) : Node → Prop
  | .activity info a => info.metadata.ReadBack f ∧ a.ReadBack f
  | .subProcess info nodes _ _ => info.metadata.ReadBack f ∧ nodesReadBack f nodes

/-- the metadata of the nodes of a list is read back -/
def nodesReadBack (f : Json → Json) : List Node → Prop
  | [] => True
  | n :: rest => n.ReadBack f ∧ nodesReadBack f rest

end

section Nodes

variable {f : Json → Json}

mutual

/-- **A node is read back** when the metadata in it is. -/
theorem Node.read_toJson (arranges : Arranges f) (origin : Origin) (n : Node) (readBack : n.ReadBack f) :
    Node.ofJson origin (f n.toJson) = .ok n := by
  obtain ⟨ms, arranged, found⟩ := arranges.object_present n.fields n.nodup_fields
  rw [Node.toJson_eq, arranged, Node.ofJson, Node.assemble, nestedIn_eq]
  match n with
  | .activity info a =>
    rw [Node.ReadBack] at readBack
    simp only [Node.fields, List.forall_mem_append, List.forall_mem_cons] at found
    obtain ⟨ofInfo, hasType, ofKind⟩ := found
    rw [NodeInfo.read_fields arranges origin readBack.1 ofInfo, member_read hasType (a.kind.read_name arranges)]
    show (match Activity.ofMembers? ms a.kind with | some decoded => _ | none => _) = _
    rw [Activity.read_fields arranges readBack.2 ofKind]
    rfl
  | .subProcess info nodes connections autoComplete =>
    rw [Node.ReadBack] at readBack
    simp only [Node.fields, List.forall_mem_append, List.forall_mem_cons] at found
    obtain ⟨ofInfo, hasType, hasNodes, hasConnections, hasAuto, -⟩ := found
    -- nested nodes are read from a buffer, so they are read back as such whatever the node was read from
    have nested := nodeItems_nodesToJson arranges .buffered nodes readBack.2
    obtain ⟨_, connectionsRead, rfl⟩ := member_default hasConnections
      (list_read arranges fun c _ => c.read_toJson arranges .buffered) List.isEmpty_iff.1
    rw [NodeInfo.read_fields arranges origin readBack.1 ofInfo, member_read hasType (NodeKind.subProcess.read_name arranges),
      member_read hasAuto (bool_read arranges autoComplete), connectionsRead, hasNodes]
    show (do let nodes ← nodesOfJson .buffered (f (.array (nodesToJson nodes))); _) = _
    rw [arranges.array, nodesOfJson, nested]
    rfl

theorem nodeItems_nodesToJson (arranges : Arranges f) (origin : Origin) (nodes : List Node)
    (readBack : nodesReadBack f nodes) : nodeItems origin ((nodesToJson nodes).map f) = .ok nodes := by
  match nodes with
  | [] => rw [nodesToJson, List.map_nil, nodeItems]
  | n :: rest =>
    rw [nodesReadBack] at readBack
    rw [nodesToJson, List.map_cons, nodeItems, Node.read_toJson arranges origin n readBack.1,
      nodeItems_nodesToJson arranges origin rest readBack.2]
    rfl

end

theorem Node.readBack_assemble (arranges : Arranges f) {origin : Origin} {ms : List (String × Json)}
    (isSorted : MembersSorted ms) {nested : Option (Decoded (List Node))}
    (readBack : ∀ read ∈ nested, Yields (nodesReadBack f) read) : Yields (ReadBack f) (assemble origin ms nested) := by
  refine .bind fun info infoRead => .bind fun _ _ => .bind fun kind _ => ?_
  have ofInfo : info.metadata.ReadBack f := NodeInfo.readBack_of_read arranges isSorted info infoRead
  split
  · rename_i read isActivity
    exact .bind fun a activityRead => .ok ⟨ofInfo, Activity.readBack_of_read arranges isSorted isActivity a activityRead⟩
  · refine .bind fun _ _ => .bind fun _ _ => .bind fun nodes nodesRead => .ok ⟨ofInfo, ?_⟩
    cases nested with
    | none =>
      obtain rfl := Except.ok.inj nodesRead
      exact trivial
    | some read => exact readBack read rfl nodes nodesRead

mutual

/-- **The metadata of a node that was read** from a value in key order is read back. -/
theorem Node.readBack_of_read (arranges : Arranges f) (origin : Origin) (v : Json) (isSorted : v.IsSorted) :
    Yields (Node.ReadBack f) (Node.ofJson origin v) := by
  match v with
  | .object ms =>
    rw [IsSorted] at isSorted
    rw [Node.ofJson]
    exact Node.readBack_assemble arranges isSorted.2 (nestedIn_readBack arranges ms isSorted.2)
  | .null => rw [Node.ofJson]; exact .wrongType _ _
  | .bool _ => rw [Node.ofJson]; exact .wrongType _ _
  | .number _ => rw [Node.ofJson]; exact .wrongType _ _
  | .string _ => rw [Node.ofJson]; exact .wrongType _ _
  | .array _ => rw [Node.ofJson]; exact .wrongType _ _

theorem nestedIn_readBack (arranges : Arranges f) (ms : List (String × Json)) (isSorted : MembersSorted ms) :
    ∀ read ∈ nestedIn ms, Yields (nodesReadBack f) read := by
  match ms with
  | [] =>
    rw [nestedIn]
    intro read h
    cases h
  | m :: rest =>
    rw [MembersSorted] at isSorted
    have ofMember := nestedMember_readBack arranges m isSorted.1
    rw [nestedIn]
    split
    · rename_i nodes found
      exact found ▸ ofMember
    · exact nestedIn_readBack arranges rest isSorted.2

theorem nestedMember_readBack (arranges : Arranges f) (m : String × Json) (isSorted : MemberSorted m) :
    ∀ read ∈ nestedMember m, Yields (nodesReadBack f) read := by
  match m with
  | (k, v) =>
    rw [MemberSorted] at isSorted
    have ofValue := nodesOfJson_readBack arranges .buffered v isSorted
    rw [nestedMember]
    split
    · rintro _ ⟨⟩
      exact ofValue
    · intro read h
      cases h

theorem nodesOfJson_readBack (arranges : Arranges f) (origin : Origin) (v : Json) (isSorted : v.IsSorted) :
    Yields (nodesReadBack f) (nodesOfJson origin v) := by
  match v with
  | .array items =>
    rw [IsSorted] at isSorted
    rw [nodesOfJson]
    exact nodeItems_readBack arranges origin items isSorted
  | .null => rw [nodesOfJson]; exact .wrongType _ _
  | .bool _ => rw [nodesOfJson]; exact .wrongType _ _
  | .number _ => rw [nodesOfJson]; exact .wrongType _ _
  | .string _ => rw [nodesOfJson]; exact .wrongType _ _
  | .object _ => rw [nodesOfJson]; exact .wrongType _ _

theorem nodeItems_readBack (arranges : Arranges f) (origin : Origin) (items : List Json) (isSorted : AreSorted items) :
    Yields (nodesReadBack f) (nodeItems origin items) := by
  match items with
  | [] => rw [nodeItems]; exact .ok trivial
  | v :: rest =>
    rw [AreSorted] at isSorted
    have first := Node.readBack_of_read arranges origin v isSorted.1
    have others := nodeItems_readBack arranges origin rest isSorted.2
    rw [nodeItems]
    exact .bind fun n nodeRead => .bind fun ns nodesRead => .ok ⟨first n nodeRead, others ns nodesRead⟩

end

end Nodes

/-! ## Process models -/

namespace ProcessModel

def fields (m : ProcessModel) : List (String × Option Json) :=
  [("id", some (.string m.id)), ("name", m.name.map .string), ("packageName", m.packageName.map .string),
    ("version", m.version.map .string), ("nodes", some (.array (nodesToJson m.nodes))),
    ("connections", leftOutIf m.connections.isEmpty (.array (m.connections.map Connection.toJson))),
    ("variables", some (.array (m.vars.map Variable.toJson))),
    ("metadata", leftOutIf m.metadata.isEmpty m.metadata.toJson)]

theorem toJson_eq (m : ProcessModel) : m.toJson = .object (present m.fields) := by
  rw [toJson, optionalMember_eq, optionalMember_eq, optionalMember_eq, listMember_eq, metadataMember_eq]
  show Json.object (present [("id", some _)] ++ present [_] ++ present [_] ++ present [_] ++
    present [("nodes", some _), _] ++ present [("variables", some _), _]) = _
  simp only [← present_append]
  rfl

/-- the metadata of a process model and of its nodes is read back -/
structure ReadBack (f : Json → Json) (m : ProcessModel) : Prop where
  nodes : nodesReadBack f m.nodes
  metadata : m.metadata.ReadBack f

section Models

variable {f : Json → Json} (arranges : Arranges f)

include arranges

/-- **A process model is read back** when the metadata in it is. -/
theorem read_toJson {m : ProcessModel} (readBack : m.ReadBack f) : ofJson (f m.toJson) = .ok m := by
  obtain ⟨ms, arranged, found⟩ := arranges.object_present m.fields (by simp [fields])
  rw [toJson_eq, arranged, ofJson]
  obtain ⟨nodesBack, metadataBack⟩ := readBack
  obtain ⟨id, name, packageName, version, nodes, connections, vars, metadata⟩ := m
  simp only [fields, List.forall_mem_cons] at found
  obtain ⟨hasId, hasName, hasPackage, hasVersion, hasNodes, hasConnections, hasVars, hasMetadata, -⟩ := found
  have nodesRead : nodesOfJson .document (f (.array (nodesToJson nodes))) = .ok nodes := by
    rw [arranges.array, nodesOfJson, nodeItems_nodesToJson arranges .document nodes nodesBack]
  have varsRead : variablesOfJson .document (f (.array (vars.map Variable.toJson))) = .ok vars :=
    list_read arranges fun v _ => v.read_toJson arranges .document
  obtain ⟨_, nameRead, rfl⟩ := member_optional hasName (optional_string_read arranges)
  obtain ⟨_, packageRead, rfl⟩ := member_optional hasPackage (optional_string_read arranges)
  obtain ⟨_, versionRead, rfl⟩ := member_optional hasVersion (optional_string_read arranges)
  obtain ⟨_, connectionsRead, rfl⟩ := member_default hasConnections
    (list_read arranges fun c _ => c.read_toJson arranges .document) List.isEmpty_iff.1
  obtain ⟨_, metadataRead, rfl⟩ := member_default hasMetadata (Metadata.read_toJson arranges metadataBack)
    NameMap.eq_empty_of_isEmpty
  rw [connectionsRead, member_read hasId (string_read arranges id), metadataRead, nameRead,
    member_read hasNodes nodesRead, packageRead, member_read hasVars varsRead, versionRead]
  rfl

/-- **The metadata of a process model that was read** from a value in key order is read back. -/
theorem readBack_of_read {v : Json} (isSorted : v.IsSorted) : Yields (ReadBack f) (ofJson v) := by
  unfold ofJson
  split
  · rename_i ms
    rw [IsSorted, membersSorted_iff] at isSorted
    have ofNodes : Yields (fun o => nodesReadBack f (o.getD [])) (member ms "nodes" (nodesOfJson .document)) :=
      .member trivial fun m isMember => nodesOfJson_readBack arranges .document m.2 (isSorted.2 m isMember)
    have ofMetadata := Metadata.readBack_of_member arranges (membersSorted_iff.2 isSorted.2) "metadata"
    refine .bind fun _ _ => .bind fun _ _ => .bind fun metadata metadataRead => .bind fun _ _ => ?_
    refine .bind fun nodes nodesRead => .bind fun _ _ => .bind fun _ _ => .bind fun _ _ => .bind fun _ _ => ?_
    exact .ok ⟨ofNodes nodes nodesRead, ofMetadata metadata metadataRead⟩
  · rename_i xs
    rw [IsSorted, areSorted_iff] at isSorted
    have ofNodes : Yields (nodesReadBack f) (elementOr [] xs 4 (nodesOfJson .document)) :=
      .elementOr trivial fun v isElement => nodesOfJson_readBack arranges .document v (isSorted v isElement)
    have ofMetadata : Yields (Metadata.ReadBack f) (elementOr NameMap.empty xs 7 Metadata.ofJson) :=
      .elementOr (Metadata.readBack_empty f) fun v isElement => Metadata.readBack_of_read arranges (isSorted v isElement)
    refine .bind fun _ _ => .bind fun _ _ => .bind fun _ _ => .bind fun _ _ => .bind fun nodes nodesRead => ?_
    refine .bind fun _ _ => .bind fun _ _ => .bind fun metadata metadataRead => .bind fun _ _ => ?_
    exact .ok ⟨ofNodes nodes nodesRead, ofMetadata metadata metadataRead⟩
  · exact .wrongType _ _

end Models

theorem parse_eq_ok_iff {v : Json} {m : ProcessModel} :
    parse v = .ok m ↔ ofJson v = .ok m ∧ Text.isBlankText m.id = false := by
  unfold parse
  cases ofJson v with
  | error fault => simp
  | ok read =>
    by_cases blank : Text.isBlankText read.id
    · simp only [blank, if_true, reduceCtorEq, Except.ok.injEq, false_iff, not_and]
      rintro rfl
      simp [blank]
    · simp only [blank, Bool.false_eq_true, if_false, Except.ok.injEq]
      refine ⟨?_, fun h => h.1⟩
      rintro rfl
      exact ⟨rfl, by simpa using blank⟩

end ProcessModel

/-! ## Reading, writing and reading again -/

/-- what is read from a value that is kept is written and read again as itself, and then written as before -/
def Lossless {ε α : Type} (read : Json → Except ε α) (write : α → Json) : Prop :=
  ∀ v : Json, v.IsSorted → ∀ a, read v = .ok a → read (write a) = .ok a ∧ (read (write a)).map write = .ok (write a)

section Lossless

variable {ε α : Type} {read : Json → Except ε α} {write : α → Json}

theorem Lossless.of_read (h : ∀ v : Json, v.IsSorted → ∀ a, read v = .ok a → read (write a) = .ok a) :
    Lossless read write := by
  intro v isSorted a accepted
  have again := h v isSorted a accepted
  exact ⟨again, by rw [again]; rfl⟩

/-- **What is read from a text** is written and read again as itself. -/
theorem Lossless.read_text (lossless : Lossless read write) {text : String} {v : Json} {a : α}
    (isText : Json.parse text = .ok v) (accepted : read v = .ok a) : read (write a) = .ok a :=
  (lossless v (isSorted_parse text v isText) a accepted).1

end Lossless

/-- **Nothing is lost.** Process models, environment descriptors, type indexes and dependency closures that were read are
written and read again as themselves, with their members in the order of writing and in key order. -/
theorem codecs_lossless : ∀ arrange ∈ [id, Json.sorted],
    Lossless ProcessModel.parse (fun m => arrange m.toJson) ∧ Lossless Environment.ofJson (fun e => arrange e.toJson) ∧
      Lossless TypeIndex.ofJson (fun index => arrange index.toJson) ∧
      Lossless DependencyClosure.ofJson (fun c => arrange c.toJson) := by
  intro arrange known
  have arranges : Arranges arrange := by
    rcases List.mem_pair.1 known with rfl | rfl
    · exact arranges_id
    · exact arranges_sorted
  refine ⟨.of_read ?_, .of_read ?_, .of_read ?_, .of_read ?_⟩
  · intro v isSorted m accepted
    obtain ⟨read, named⟩ := ProcessModel.parse_eq_ok_iff.1 accepted
    have readBack := ProcessModel.readBack_of_read arranges isSorted m read
    exact ProcessModel.parse_eq_ok_iff.2 ⟨ProcessModel.read_toJson arranges readBack, named⟩
  · exact fun _ _ e _ => e.read_toJson arranges
  · exact fun _ _ index _ => index.read_toJson arranges
  · exact fun _ _ c _ => c.read_toJson arranges

/-- a process with metadata of every kind, members that are null or empty, and a node inside another -/
def layeredModel : Json :=
  .object [("id", .string "layered"),
    ("metadata", .object [("count", .ofInt 7), ("flag", .bool true), ("list", .array [.null, .object []]),
      ("long", .ofInt 5000000000), ("nothing", .null), ("text", .string ""), ("word", .ofInt 18446744073709551615)]),
    ("name", .null),
    ("nodes", .array [
      .object [("connections", .array [.array [.ofInt 2, .ofInt 3]]), ("id", .ofInt 1),
        ("nodes", .array [
          .object [("id", .ofInt 2), ("trigger", .null), ("type", .string "start")],
          .object [("id", .ofInt 3), ("parameters", .object [("to", .object [("a", .ofInt 1), ("b", .null)])]),
            ("type", .ofInt 3), ("variables", .array []), ("workName", .string "mail")]]),
        ("type", .string "subProcess")]])]

theorem layeredModel_lossless : layeredModel.IsSorted ∧ ∃ m, ProcessModel.parse layeredModel = .ok m ∧
    ProcessModel.parse m.toJson.sorted = .ok m := by
  have isSorted : layeredModel.IsSorted := by
    simp only [layeredModel, ofInt, IsSorted, AreSorted, MembersSorted, MemberSorted, and_true, true_and]
    decide +kernel
  have accepted : (ProcessModel.parse layeredModel).toBool = true := by decide +kernel
  cases read : ProcessModel.parse layeredModel with
  | error fault =>
    rw [read] at accepted
    cases accepted
  | ok m => exact ⟨isSorted, m, rfl, ((codecs_lossless Json.sorted (by simp)).1 layeredModel isSorted m read).1⟩

end ProcessBuild
