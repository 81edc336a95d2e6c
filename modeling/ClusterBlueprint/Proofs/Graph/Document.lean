import ClusterBlueprint.Proofs.Graph.Soundness
import ClusterBlueprint.Proofs.Json.Record
/-!
# Graph — documents of graphs

A graph is written in one way and read from many: the kind of a resource
may be an object with one key, its details may be left out, its
dependencies may be repeated and come in any order, and further fields are
passed over. `Graph.Documents` says which lists of resources a document
stands for, without reading it, and a document is read exactly when it
stands for a sound list (`ofJson?_eq_some_iff`). What is read has therefore
been through the whole check, whatever the document looks like.
-/

namespace ClusterBlueprint

/-! ## Resources -/

/-- A kind is read from its own spelling. -/
theorem ResourceKind.ofDocumentName?_eq_some_iff {s : String} {kind : ResourceKind} :
    ofDocumentName? s = some kind ↔ s = kind.documentName := by
  constructor
  · intro h
    have hname := List.find?_some h
    exact (of_decide_eq_true hname).symm
  · rintro rfl
    exact kind.ofDocumentName?_documentName

namespace Node

variable {n : Node} {doc : Json} {fields : List (String × Json)}

/-- What fields say of a resource. -/
structure WrittenIn (fields : List (String × Json)) (n : Node) : Prop where
  id : Bindings.find? "id" fields = some (.text n.id)
  kind : Bindings.find? "kind" fields = some (.text n.kind.documentName) ∨
    Bindings.find? "kind" fields = some (.object [(n.kind.documentName, .null)])
  name : Bindings.find? "name" fields = some (.text n.name)
  properties : Bindings.find? "properties" fields = some n.properties
  /-- No details, if there is no such field. -/
  details : Bindings.find? "connectionDetails" fields = none ∧ n.details = Dict.empty ∨
    ∃ bindings : List (String × String),
      Bindings.find? "connectionDetails" fields =
          some (.object (bindings.map fun b => (b.1, .text b.2))) ∧
        Dict.ofList bindings = n.details
  /-- In any order and with repeats. -/
  dependsOn : ∃ ids : List String, Bindings.find? "dependsOn" fields = some (.texts ids) ∧
    ∀ i, i ∈ n.dependsOn ↔ i ∈ ids

/-- The fields of a resource, in the order of a record without keys. -/
def documentKeys : List String :=
  ["id", "kind", "name", "properties", "connectionDetails", "dependsOn"]

/-- A document stands for a resource. -/
def Documents (doc : Json) (n : Node) : Prop :=
  ∃ fields, doc.record? documentKeys = some fields ∧ WrittenIn fields n

theorem kindOfJson?_eq_some_iff {kind : ResourceKind} :
    kindOfJson? doc = some kind ↔
      doc = .text kind.documentName ∨ doc = .object [(kind.documentName, .null)] := by
  unfold kindOfJson?
  simp only [Option.bind_eq_bind, Option.bind_eq_some_iff, ResourceKind.ofDocumentName?_eq_some_iff,
    exists_eq_right, Json.name?_eq_some_iff]

theorem detailsOf?_eq_some_iff {details : Dict String} :
    detailsOf? fields = some details ↔
      Bindings.find? "connectionDetails" fields = none ∧ details = Dict.empty ∨
        ∃ bindings : List (String × String),
          Bindings.find? "connectionDetails" fields =
              some (.object (bindings.map fun b => (b.1, .text b.2))) ∧
            Dict.ofList bindings = details := by
  unfold detailsOf?
  cases Bindings.find? "connectionDetails" fields with
  | none => simp [eq_comm]
  | some doc => simp [Json.dict?_eq_some_iff]

/-- **A resource is read from the documents that stand for it.** -/
theorem ofJson?_eq_some_iff : ofJson? doc = some n ↔ Documents doc n := by
  unfold ofJson?
  simp only [Option.bind_eq_bind, Option.bind_eq_some_iff, Json.required?_eq_some_iff,
    Json.text?_eq_some_iff, kindOfJson?_eq_some_iff, detailsOf?_eq_some_iff,
    Json.list?_text?_eq_some_iff]
  constructor
  · rintro ⟨fields, hfields, id, ⟨_, hid, rfl⟩, kind, ⟨kindDoc, hkind, hspelled⟩, name,
      ⟨_, hname, rfl⟩, properties, ⟨_, hproperties, hsame⟩, details, hdetails, ids,
      ⟨_, hids, rfl⟩, hn⟩
    obtain rfl := Option.some.inj hn
    obtain rfl := Option.some.inj hsame
    refine ⟨fields, hfields, hid, ?_, hname, hproperties, hdetails, ids, hids, fun i => ?_⟩
    · rcases hspelled with rfl | rfl
      · exact Or.inl hkind
      · exact Or.inr hkind
    · exact TextSet.mem_ofList
  · rintro ⟨fields, hfields, hid, hkind, hname, hproperties, hdetails, ids, hids, hdependsOn⟩
    have hset : TextSet.ofList ids = n.dependsOn :=
      TextSet.ext_mem fun i => TextSet.mem_ofList.trans (hdependsOn i).symm
    refine ⟨fields, hfields, n.id, ⟨_, hid, rfl⟩, n.kind, ?_, n.name, ⟨_, hname, rfl⟩,
      n.properties, ⟨_, hproperties, rfl⟩, n.details, hdetails, ids, ⟨_, hids, rfl⟩, ?_⟩
    · rcases hkind with hkind | hkind
      · exact ⟨_, hkind, Or.inl rfl⟩
      · exact ⟨_, hkind, Or.inr rfl⟩
    · rw [hset]
      rfl

/-- What is written of a resource stands for it. -/
theorem documents_toJson (n : Node) : Documents n.toJson n := by
  refine ⟨_, rfl, ?_⟩
  unfold detailsField
  cases hempty : n.details.isEmpty with
  | true =>
    have hbindings : n.details.bindings = [] := List.isEmpty_iff.1 hempty
    have hdetails : Dict.ofList n.details.bindings = n.details := n.details.ofList_bindings
    rw [hbindings] at hdetails
    exact ⟨rfl, Or.inl rfl, rfl, rfl, Or.inl ⟨rfl, hdetails.symm⟩, _, rfl, fun i => Iff.rfl⟩
  | false =>
    exact ⟨rfl, Or.inl rfl, rfl, rfl, Or.inr ⟨_, rfl, n.details.ofList_bindings⟩, _, rfl,
      fun i => Iff.rfl⟩

end Node

/-! ## Graphs -/

namespace Graph

variable {nodes : List Node} {doc : Json} {g : Graph}

/-- A document stands for a list of resources. -/
def Documents (doc : Json) (nodes : List Node) : Prop :=
  ∃ fields docs, doc.record? ["nodes"] = some fields ∧
    Bindings.find? "nodes" fields = some (.array docs) ∧
      List.Forall₂ Node.Documents docs nodes

/-- A list is accepted as the graph that has it. -/
theorem ofNodes_eq_ok_iff : ofNodes nodes = .ok g ↔ g.nodes = nodes := by
  constructor
  · exact nodes_of_ofNodes
  · rintro rfl
    obtain ⟨g', hg', hnodes⟩ := ofNodes_of_sound (sound_nodes g)
    obtain ⟨nodes, sound⟩ := g
    obtain ⟨nodes', sound'⟩ := g'
    cases hnodes
    exact hg'

/-- **A graph is read from the documents that stand for its list.** -/
theorem ofJson?_eq_some_iff : ofJson? doc = some g ↔ Documents doc g.nodes := by
  unfold ofJson? Documents
  simp only [Option.bind_eq_bind, Option.bind_eq_some_iff, Json.required?_eq_some_iff,
    Json.list?_eq_some_iff, Node.ofJson?_eq_some_iff, Fallible.toOption_eq_some_iff,
    ofNodes_eq_ok_iff]
  constructor
  · rintro ⟨fields, hfields, nodes, ⟨_, hnodes, docs, rfl, hdocs⟩, rfl⟩
    exact ⟨fields, docs, hfields, hnodes, hdocs⟩
  · rintro ⟨fields, docs, hfields, hnodes, hdocs⟩
    exact ⟨fields, hfields, g.nodes, ⟨_, hnodes, docs, rfl, hdocs⟩, rfl⟩

/-- What is written of a graph stands for its list. -/
theorem documents_toJson (g : Graph) : Documents g.toJson g.nodes := by
  refine ⟨_, _, rfl, rfl, ?_⟩
  rw [List.forall₂_map_left_iff, List.forall₂_same]
  exact fun n _ => n.documents_toJson

/-- **Documents of graphs.** A list of resources that is accepted is written
as a document that gives the graph back, and the documents that give a
graph are those that stand for a sound list, however they are spelled. -/
theorem ofJson?_sound :
    (∀ nodes g, ofNodes nodes = .ok g → g.nodes = nodes ∧ ofJson? g.toJson = some g) ∧
      ∀ doc nodes, (∃ g, ofJson? doc = some g ∧ g.nodes = nodes) ↔
        Documents doc nodes ∧ Sound nodes := by
  refine ⟨fun nodes g hg => ⟨nodes_of_ofNodes hg, ?_⟩, fun doc nodes => ⟨?_, ?_⟩⟩
  · exact ofJson?_eq_some_iff.2 g.documents_toJson
  · rintro ⟨g, hg, rfl⟩
    exact ⟨ofJson?_eq_some_iff.1 hg, sound_nodes g⟩
  · rintro ⟨hdoc, hsound⟩
    obtain ⟨g, -, rfl⟩ := ofNodes_of_sound hsound
    exact ⟨g, ofJson?_eq_some_iff.2 hdoc, rfl⟩

/-- A document in other spellings: a kind as an object, no details, repeated
dependencies and a field that is unknown. -/
theorem ofJson?_sound_respelled :
    let gateway : Node :=
      { id := "gateway", kind := .internetGateway, name := "db-igw-dev", properties := .object []
        details := Dict.empty, dependsOn := TextSet.empty }
    let table : Node :=
      { id := "table", kind := .routeTable, name := "db-table-dev", properties := .object []
        details := Dict.empty, dependsOn := TextSet.empty }
    let properties : Json := .object
      [("gatewayRef", .object [("name", .text "db-igw-dev")]),
        ("tableRef", .object [("name", .text "db-table-dev")])]
    let route : Node :=
      { id := "route", kind := .route, name := "db-route-dev", properties := properties
        details := Dict.empty, dependsOn := TextSet.ofList ["gateway", "table"] }
    let ids := ["table", "gateway", "table"]
    let fields : List (String × Json) :=
      [("dependsOn", .texts ids), ("id", .text "route"), ("kind", .object [("route", .null)]),
        ("name", .text "db-route-dev"), ("properties", properties), ("revision", .integer 3)]
    let respelled : Json := .object
      [("nodes", .array [gateway.toJson, table.toJson, .object fields])]
    ∃ g, ofNodes [gateway, table, route] = .ok g ∧ ofJson? g.toJson = some g ∧
      ofJson? respelled = some g := by
  intro gateway table properties route ids fields respelled
  have hsound : Sound [gateway, table, route] :=
    check_eq_ok_iff.1 (Fallible.toOption_eq_some_iff.1 (by decide +kernel))
  have hids : ∀ i, i ∈ route.dependsOn ↔ i ∈ ids := by
    intro i
    simp only [route, ids, TextSet.mem_ofList, List.mem_cons, List.not_mem_nil, or_false]
    tauto
  have hroute : Node.Documents (.object fields) route :=
    ⟨fields, rfl, rfl, Or.inr rfl, rfl, rfl, Or.inl ⟨rfl, rfl⟩, ids, rfl, hids⟩
  have hdocuments : Documents respelled [gateway, table, route] :=
    ⟨_, _, rfl, rfl, .cons gateway.documents_toJson
      (.cons table.documents_toJson (.cons hroute .nil))⟩
  obtain ⟨hwritten, hread⟩ := ofJson?_sound
  obtain ⟨g, hg, hnodes⟩ := ofNodes_of_sound hsound
  obtain ⟨g', hg', hnodes'⟩ := (hread respelled _).2 ⟨hdocuments, hsound⟩
  obtain rfl : g' = g := Except.ok.inj ((ofNodes_eq_ok_iff.2 hnodes').symm.trans hg)
  exact ⟨g', hg, (hwritten _ g' hg).2, hg'⟩

end Graph

end ClusterBlueprint
