import ClusterBlueprint.Proofs.Blueprint.Drawing
/-!
# Blueprint — the connection of a drawn graph

`Connection.ofGraph` gathers what it needs from a graph and fails where
something is missing. Of the graph of a scheme nothing is: whatever the
dependencies came out as, the drafts have the network, the subnet group,
the cluster with its details, and the secret that the cluster refers to.
So the connection is a function of the scheme and the password
(`connection_eq`), and the password in it is the one that was drawn with.
-/

namespace ClusterBlueprint

namespace Scheme

variable {s : Scheme} {password : Option String} {g : Graph}

/-- The connection of a blueprint. -/
def connection (s : Scheme) (password : Option String) : Connection where
  writerEndpoint := Naming.writerEndpoint s.clusterName s.spec.region
  readerEndpoint := Naming.readerEndpoint s.clusterName s.spec.region
  clusterId := s.clusterName
  masterPassword := password
  vpcId := s.nameOf .vpc
  subnetGroup := s.nameOf .subnetGroup
  masterUser := s.spec.masterUser
  port := toString s.config.dbPort
  databaseName := s.spec.databaseName

/-! ## Looking up resources -/

/-- A part that is drawn has a resource. -/
theorem exists_node (hg : g.nodes.map Node.draft = s.drafts password) {p : Part}
    (hp : p ∈ s.ground password ∨ p = .cluster) :
    ∃ n ∈ g.nodes, n.draft = s.drawn password p := by
  have hmem : s.drawn password p ∈ s.drafts password := by
    rcases hp with hp | rfl
    · exact List.mem_append_left _ (List.mem_map_of_mem hp)
    · exact List.mem_append_right _ List.mem_cons_self
  rw [← hg] at hmem
  exact List.mem_map.1 hmem

/-- **A resource is a part or a member.** -/
theorem draft_cases (hg : g.nodes.map Node.draft = s.drafts password) {n : Node}
    (hn : n ∈ g.nodes) :
    (∃ p, (p ∈ s.ground password ∨ p = .cluster) ∧ n.draft = s.drawn password p) ∨
      ∃ i < s.spec.instanceCount, n.draft = s.member i := by
  have hmem : n.draft ∈ s.drafts password := hg ▸ List.mem_map_of_mem hn
  rcases List.mem_append.1 hmem with hmem | hmem
  · obtain ⟨p, hp, hdraft⟩ := List.mem_map.1 hmem
    exact Or.inl ⟨p, Or.inl hp, hdraft.symm⟩
  · rcases List.mem_cons.1 hmem with hcluster | hmem
    · exact Or.inl ⟨.cluster, Or.inr rfl, hcluster⟩
    · obtain ⟨i, hi, hdraft⟩ := List.mem_map.1 hmem
      exact Or.inr ⟨i, List.mem_range.1 hi, hdraft.symm⟩

/-- What the kind of a part finds is the part, if there are not several of
the kind. -/
theorem draft_of_kind (hg : g.nodes.map Node.draft = s.drafts password) {p : Part}
    (hsingle : p.extra = none) {n : Node} (hn : n ∈ g.nodes) (hkind : n.kind = p.kind) :
    n.draft = s.drawn password p := by
  rcases draft_cases hg hn with ⟨q, -, hq⟩ | ⟨i, -, hi⟩
  · have hq' : q.kind = p.kind := by
      rw [← drawn_kind s password q, ← hq]
      exact hkind
    exact Part.eq_of_kind hsingle hq' ▸ hq
  · have hinstance : p.kind = .clusterInstance := by
      rw [← hkind]
      exact congrArg Draft.kind hi
    cases p <;> cases hinstance

/-- And something is found. -/
theorem exists_require (hg : g.nodes.map Node.draft = s.drafts password) {p : Part}
    (hp : p ∈ s.ground password ∨ p = .cluster) (hsingle : p.extra = none) :
    ∃ n, Connection.require g p.kind = .ok n ∧ n.draft = s.drawn password p := by
  obtain ⟨m, hm, hdraft⟩ := exists_node hg hp
  have hkind : m.kind = p.kind := (congrArg Draft.kind hdraft).trans (drawn_kind s password p)
  have hsome : (g.firstOfKind? p.kind).isSome :=
    List.find?_isSome.2 ⟨m, hm, decide_eq_true hkind⟩
  obtain ⟨n, hn⟩ := Option.isSome_iff_exists.1 hsome
  refine ⟨n, by rw [Connection.require, hn], ?_⟩
  unfold Graph.firstOfKind? at hn
  have hnkind : n.kind = p.kind := by simpa using List.find?_some hn
  exact draft_of_kind hg hsingle (List.mem_of_find?_eq_some hn) hnkind

/-! ## Details -/

/-- What the cluster publishes is found under its keys. -/
theorem get?_clusterDetails (s : Scheme) :
    (s.clusterDetails s.names).get? "endpoint" =
        some (Naming.writerEndpoint s.clusterName s.spec.region) ∧
      (s.clusterDetails s.names).get? "readerEndpoint" =
        some (Naming.readerEndpoint s.clusterName s.spec.region) ∧
      (s.clusterDetails s.names).get? "clusterIdentifier" = some s.clusterName ∧
      (s.clusterDetails s.names).get? "username" = some s.spec.masterUser ∧
      (s.clusterDetails s.names).get? "port" = some (toString s.config.dbPort) := by
  simp only [clusterDetails, Dict.get?, Dict.ofList, Bindings.ofList, Bindings.putAll,
    List.foldl_cons, List.foldl_nil, Bindings.find?_put]
  simp [names]

/-- The cluster names its first database. -/
theorem get?_databaseName (s : Scheme) (n : Names) (password : Option String) :
    (s.cluster n password).properties.get? "databaseName" = some (.text s.spec.databaseName) := by
  simp only [cluster, Json.get?_object, Bindings.find?, String.reduceEq, ↓reduceIte]

/-- A detail that is published is found. -/
theorem detail_eq {n : Node} {key value : String} (h : n.details.get? key = some value) :
    Connection.detail n key = .ok value := by
  rw [Connection.detail, h]

/-! ## The password -/

/-- **The password of the cluster is the one that was drawn with.** -/
theorem password_eq (hg : g.nodes.map Node.draft = s.drafts password) {n : Node}
    (hn : n.draft = s.drawn password .cluster) : Connection.password g n = .ok password := by
  have hproperties : n.properties = (s.cluster s.names password).properties :=
    congrArg Draft.properties hn
  cases password with
  | none =>
    have hname : Connection.secretName? n = none := by
      rw [Connection.secretName?, Node.property?, hproperties]
      simp [cluster, passwordSource, Bindings.find?]
    rw [Connection.password, hname]
  | some password =>
    have hname : Connection.secretName? n = some (s.nameOf .secret) := by
      rw [Connection.secretName?, Node.property?, hproperties]
      simp [cluster, passwordSource, Bindings.find?, Json.referredName?, Json.text?, names]
    obtain ⟨m, hm, hdraft⟩ := exists_node hg (Or.inl (Extent.mem_parts.2 rfl) :
      .secret ∈ s.ground (some password) ∨ _)
    -- names are distinct, so the reference finds the secret and nothing else
    have hfind : g.findByName? (s.nameOf .secret) = some m := by
      have hsecret : m.name = s.nameOf .secret := congrArg Draft.name hdraft
      rw [← hsecret]
      exact Graph.find?_key (Graph.sound_nodes g).names hm
    have hkind : m.kind = .secret := congrArg Draft.kind hdraft
    have hdetails : m.details.get? passwordKey = some password := by
      have heq : m.details = (Scheme.secret s.names password).details :=
        congrArg Draft.details hdraft
      rw [heq]
      simp [Scheme.secret, Dict.get?, Dict.ofList, Bindings.ofList, Bindings.putAll,
        Bindings.find?_put]
    have hfilter : (some m).filter (fun n => decide (n.kind = .secret)) = some m := by
      rw [Option.filter_some, hkind]
      rfl
    rw [Connection.password, hname]
    simp only [hfind, hfilter, detail_eq hdetails]
    rfl

/-- **A drawn graph has its connection.** -/
theorem connection_eq (hg : g.nodes.map Node.draft = s.drafts password) :
    Connection.ofGraph g = .ok (s.connection password) := by
  obtain ⟨vpc, hvpc, hvpcDraft⟩ :=
    exists_require hg (p := .vpc) (Or.inl (Extent.mem_parts.2 trivial)) rfl
  obtain ⟨group, hgroup, hgroupDraft⟩ :=
    exists_require hg (p := .subnetGroup) (Or.inl (Extent.mem_parts.2 trivial)) rfl
  obtain ⟨cluster, hcluster, hclusterDraft⟩ := exists_require hg (p := .cluster) (Or.inr rfl) rfl
  have hdetails : cluster.details = s.clusterDetails s.names :=
    congrArg Draft.details hclusterDraft
  obtain ⟨hwriter, hreader, hid, huser, hport⟩ := get?_clusterDetails s
  rw [← hdetails] at hwriter hreader hid huser hport
  have hdatabase : Connection.databaseOf cluster = s.spec.databaseName := by
    have hproperties : cluster.properties = (s.cluster s.names password).properties :=
      congrArg Draft.properties hclusterDraft
    rw [Connection.databaseOf, Node.property?, hproperties, get?_databaseName]
    rfl
  have hvpcName : vpc.name = s.nameOf .vpc := congrArg Draft.name hvpcDraft
  have hgroupName : group.name = s.nameOf .subnetGroup := congrArg Draft.name hgroupDraft
  simp only [Part.kind] at hvpc hgroup hcluster
  rw [Connection.ofGraph, hvpc, hgroup, hcluster]
  simp only [Fallible.ok_bind, password_eq hg hclusterDraft, detail_eq hwriter, detail_eq hreader,
    detail_eq hid, detail_eq huser, detail_eq hport, hdatabase, hvpcName, hgroupName]
  rfl

end Scheme

end ClusterBlueprint
