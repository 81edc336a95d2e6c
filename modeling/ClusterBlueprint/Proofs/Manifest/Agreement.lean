import ClusterBlueprint.Proofs.Manifest.Kinds
import ClusterBlueprint.Proofs.Text.Base64
/-!
# Manifest — the connection and the resources

The secret of the connection repeats what the resources say: the names of
the cluster, its network and its subnet group, the port, the user, the first
database and the password. A client believes the one, the provider acts on
the other. `Agrees` lists what a client that decodes the secret can hold
against the manifests, and every compiled claim keeps it
(`ofClaim_connection_agrees`). The password is in one secret that the
cluster refers to, or the provider manages it and there is no secret at all.
-/

namespace ClusterBlueprint

/-! ## What a client reads -/

namespace Json

/-- The keys of a secret's data. -/
def dataKeys (manifest : Json) : List String :=
  (((manifest.get? "data").bind fields?).getD []).map Prod.fst

/-- The text that a secret has under a key. -/
def decoded? (manifest : Json) (key : String) : Option String :=
  (((manifest.get? "data").bind fun data => data.get? key).bind text?).bind Base64.decode?

/-- Whether a manifest is a rule that lets traffic into a security group. -/
def isIngressOf (group : String) (manifest : Json) : Bool :=
  manifest.isOf "SecurityGroupRule" &&
    (manifest.parameter? "type").bind text? = some "ingress" &&
    (manifest.parameter? "securityGroupIdRef").bind referredName? = some group

/-- Whether a manifest is the secret of a name in a namespace. -/
def isSecretAt (name objectNamespace : String) (manifest : Json) : Bool :=
  manifest.isOf "Secret" && (manifest.metadata? "name").bind text? = some name &&
    (manifest.metadata? "namespace").bind text? = some objectNamespace

end Json

namespace Connection

/-- What the secret of a connection and the manifests of a document say
alike, with the cluster's manifest and its name. -/
structure Agrees (spec : Spec) (resources : List Json) (secret cluster : Json) (id : String) :
    Prop where
  keys : secret.dataKeys =
    ["clusterEndpoint", "clusterId", "clusterReaderEndpoint", "databaseName", "masterPassword",
      "masterUsername", "port", "subnetGroupName", "vpcId"]
  decoded : ∀ key ∈ secret.dataKeys, (secret.decoded? key).isSome
  only : resources.filter (Json.isOf "Cluster") = [cluster]
  clusterId : cluster.metadata? "name" = some (.text id) ∧ secret.decoded? "clusterId" = some id
  members : ∀ manifest ∈ resources, manifest.isOf "ClusterInstance" = true →
    manifest.parameter? "clusterIdentifierRef" = some (Draft.ref id)
  endpoints :
    secret.decoded? "clusterEndpoint" =
      some (id ++ ".cluster-" ++ spec.region ++ ".rds.amazonaws.com") ∧
    secret.decoded? "clusterReaderEndpoint" =
      some (id ++ ".cluster-ro-" ++ spec.region ++ ".rds.amazonaws.com")
  vpcId : ∃ vpc name, resources.filter (Json.isOf "VPC") = [vpc] ∧
    vpc.metadata? "name" = some (.text name) ∧ secret.decoded? "vpcId" = some name
  subnetGroupName : ∃ name, cluster.parameter? "dbSubnetGroupNameRef" = some (Draft.ref name) ∧
    secret.decoded? "subnetGroupName" = some name
  /-- The port is the one that the cluster listens on, and the one that its
  security group opens. -/
  port : ∃ port, secret.decoded? "port" = some (toString port) ∧
    cluster.parameter? "port" = some (.nat port) ∧
    ∃ group rule, cluster.parameter? "vpcSecurityGroupIdRefs" = some (.array [Draft.ref group]) ∧
      resources.filter (Json.isIngressOf group) = [rule] ∧
      rule.parameter? "fromPort" = some (.nat port) ∧ rule.parameter? "toPort" = some (.nat port)
  masterUsername : ∃ name, cluster.parameter? "masterUsername" = some (.text name) ∧
    secret.decoded? "masterUsername" = some name
  databaseName : ∃ name, cluster.parameter? "databaseName" = some (.text name) ∧
    secret.decoded? "databaseName" = some name

/-- The password is in one secret of the resources, which the cluster
refers to. -/
structure KeepsPassword (resources : List Json) (secret cluster : Json) (password : String) :
    Prop where
  shown : secret.decoded? "masterPassword" = some password
  kept : ∃ key name objectNamespace kept,
    cluster.parameter? "masterPasswordSecretRef" = some (.object
      [("key", .text key), ("name", .text name), ("namespace", .text objectNamespace)]) ∧
    resources.filter (Json.isSecretAt name objectNamespace) = [kept] ∧
    kept.decoded? key = some password
  unmanaged : cluster.parameter? "manageMasterUserPassword" = none

/-- The provider manages the password. -/
structure LeavesPassword (resources : List Json) (secret cluster : Json) : Prop where
  shown : secret.decoded? "masterPassword" = some ""
  noSecret : ∀ manifest ∈ resources, manifest.isOf "Secret" = false
  noReference : cluster.parameter? "masterPasswordSecretRef" = none
  managed : cluster.parameter? "manageMasterUserPassword" = some (.bool true)

end Connection

namespace Rendering

variable {r : Rendering}

/-- **The secret of a connection is decoded to its entries.** -/
theorem decoded?_connection (r : Rendering) (c : Connection) (key : String) :
    (r.connection c).decoded? key = Bindings.find? key c.entries := by
  have hdata : ((r.connection c).get? "data").bind (fun data => data.get? key) =
      (Bindings.find? key c.entries).map fun value => .text (Base64.encode value) :=
    Bindings.find?_map (fun value => Json.text (Base64.encode value)) key c.entries
  rw [Json.decoded?, hdata]
  cases Bindings.find? key c.entries with
  | none => rfl
  | some value =>
    rw [Option.map_some, Option.bind_some, Json.text?, Option.bind_some, Base64.decode?_encode]

end Rendering

namespace Scheme

variable {s : Scheme} {password : Option String} {g : Graph} {cluster : Node}

/-- What the provider is told of a part. -/
theorem parameter?_of_drawn {n : Node} {p : Part} (hn : n.draft = s.drawn password p)
    (hkind : p.kind ≠ .secret) (key : String) :
    (s.rendering.node n).parameter? key = (s.drawn password p).properties.get? key := by
  rw [Rendering.parameter?_node _ (by rwa [kind_of_drawn hn]), property?_of_draft hn]

/-- **The rule that lets the clients in** is the only one of its group. -/
theorem exists_ingress (hg : g.nodes.map Node.draft = s.drafts password) :
    ∃ rule, (s.rendering.graph g).filter (Json.isIngressOf (s.nameOf .securityGroup)) = [rule] ∧
      rule.parameter? "fromPort" = some (.nat s.config.dbPort) ∧
      rule.parameter? "toPort" = some (.nat s.config.dbPort) := by
  obtain ⟨n, hn, hdraft⟩ := exists_node hg (Or.inl (Extent.mem_parts.2 trivial :
    .ingress ∈ s.ground password))
  refine ⟨s.rendering.node n, filter_graph_eq_singleton hn fun m hm => ?_,
    (parameter?_of_drawn hdraft (by decide) _).trans rfl,
    (parameter?_of_drawn hdraft (by decide) _).trans rfl⟩
  have hrule := (describes_of_mem hg s.rendering hm).isOf_iff .securityGroupRule
  have hname : ResourceKind.securityGroupRule.manifestName = "SecurityGroupRule" := rfl
  rw [hname] at hrule
  simp only [Json.isIngressOf, Bool.and_eq_true, decide_eq_true_iff, hrule]
  constructor
  · rintro ⟨⟨hkind, htype⟩, -⟩
    obtain ⟨p, -, hpkind, hmdraft⟩ := exists_part_of_kind (p := .ingress) hg hm nofun hkind
    cases p with
    | ingress => exact eq_of_draft_eq hm hn (hmdraft.trans hdraft.symm)
    | egress =>
      rw [parameter?_of_drawn hmdraft (by decide)] at htype
      have hdirection : some "egress" = some "ingress" := htype
      exact absurd hdirection (by decide)
    | _ => cases hpkind
  · rintro rfl
    refine ⟨⟨kind_of_drawn hdraft, ?_⟩, ?_⟩
    · rw [parameter?_of_drawn hdraft (by decide)]
      rfl
    · rw [parameter?_of_drawn hdraft (by decide)]
      rfl

/-- Members name the cluster. -/
theorem clusterIdentifierRef_of_mem (hg : g.nodes.map Node.draft = s.drafts password) :
    ∀ manifest ∈ s.rendering.graph g, manifest.isOf "ClusterInstance" = true →
      manifest.parameter? "clusterIdentifierRef" = some (Draft.ref s.clusterName) := by
  intro manifest hmem hisOf
  obtain ⟨n, hn, rfl⟩ := List.mem_map.1 hmem
  have hkind : n.kind = .clusterInstance :=
    ((describes_of_mem hg s.rendering hn).isOf_iff .clusterInstance).1 hisOf
  rcases draft_cases hg hn with ⟨p, -, hdraft⟩ | ⟨i, -, hdraft⟩
  · have hpkind : p.kind = .clusterInstance := (kind_of_drawn hdraft).symm.trans hkind
    cases p <;> cases hpkind
  · rw [Rendering.parameter?_node _ (by rw [hkind]; decide), property?_of_draft hdraft]
    rfl

/-- **The connection agrees with the resources.** -/
theorem exists_agrees (hg : g.nodes.map Node.draft = s.drafts password)
    (hcluster : cluster ∈ g.nodes) (hdraft : cluster.draft = s.drawn password .cluster) :
    Connection.Agrees s.spec (s.rendering.graph g) (s.rendering.connection (s.connection password))
      (s.rendering.node cluster) s.clusterName := by
  have hdecoded := Rendering.decoded?_connection s.rendering (s.connection password)
  have hparameter := fun key => parameter?_of_drawn hdraft (by decide) key
  -- the field that tells where the password is stands among these
  have hlater : (s.drawn password .cluster).properties.get? "port" = some (.nat s.config.dbPort) ∧
      (s.drawn password .cluster).properties.get? "vpcSecurityGroupIdRefs" =
        some (.array [Draft.ref (s.nameOf .securityGroup)]) ∧
      (s.drawn password .cluster).properties.get? "masterUsername" =
        some (.text s.spec.masterUser) := by
    cases password <;> exact ⟨rfl, rfl, rfl⟩
  obtain ⟨hport, hgroups, huser⟩ := hlater
  have hvpcGround : .vpc ∈ s.ground password := Extent.mem_parts.2 trivial
  obtain ⟨vpc, hvpc, hvpcDraft⟩ := exists_node hg (Or.inl hvpcGround)
  obtain ⟨rule, hrule, hfrom, hto⟩ := exists_ingress hg
  exact
    { keys := rfl
      decoded := by
        intro key hkey
        rw [hdecoded, Bindings.isSome_find?]
        exact hkey
      only := filter_isOf_eq_singleton hg s.rendering (p := .cluster) rfl hcluster hdraft
      clusterId := by
        refine ⟨?_, (hdecoded _).trans rfl⟩
        rw [(describes_of_mem hg s.rendering hcluster).name, name_of_drawn hdraft]
        rfl
      members := clusterIdentifierRef_of_mem hg
      endpoints := ⟨(hdecoded _).trans rfl, (hdecoded _).trans rfl⟩
      vpcId := by
        refine ⟨_, _, filter_isOf_eq_singleton hg s.rendering (p := .vpc) rfl hvpc hvpcDraft,
          (describes_of_mem hg s.rendering hvpc).name, (hdecoded _).trans ?_⟩
        rw [name_of_ground hvpcGround hvpcDraft]
        rfl
      subnetGroupName := ⟨s.nameOf .subnetGroup, (hparameter _).trans rfl, (hdecoded _).trans rfl⟩
      port := ⟨s.config.dbPort, (hdecoded _).trans rfl, (hparameter _).trans hport,
        s.nameOf .securityGroup, rule, (hparameter _).trans hgroups, hrule, hfrom, hto⟩
      masterUsername := ⟨s.spec.masterUser, (hparameter _).trans huser, (hdecoded _).trans rfl⟩
      databaseName := ⟨s.spec.databaseName, (hparameter _).trans rfl, (hdecoded _).trans rfl⟩ }

/-! ## The password -/

/-- A secret has its data in its manifest. -/
theorem decoded?_secret {n : Node} {p : String} (hn : n.draft = s.drawn (some p) .secret) :
    (s.rendering.node n).decoded? passwordKey = some p := by
  have hkind : n.kind = .secret := kind_of_drawn hn
  have hproperties : n.properties = (Scheme.secret s.names p).properties :=
    congrArg Draft.properties hn
  rw [Rendering.node, if_pos hkind, Rendering.secret, hproperties]
  simp [Json.decoded?, Scheme.secret, Json.fields?, Json.text?, Bindings.putAll, Bindings.find?_put,
    Bindings.find?, Base64.decode?_encode]

/-- **A password that there is, is kept in one secret.** -/
theorem keepsPassword {p : String} (hg : g.nodes.map Node.draft = s.drafts (some p))
    (hdraft : cluster.draft = s.drawn (some p) .cluster) :
    Connection.KeepsPassword (s.rendering.graph g)
      (s.rendering.connection (s.connection (some p))) (s.rendering.node cluster) p := by
  have hground : .secret ∈ s.ground (some p) := Extent.mem_parts.2 rfl
  obtain ⟨n, hn, hndraft⟩ := exists_node hg (Or.inl hground)
  refine ⟨(Rendering.decoded?_connection _ _ _).trans rfl, ⟨passwordKey, s.nameOf .secret,
    s.spec.objectNamespace, s.rendering.node n,
    (parameter?_of_drawn hdraft (by decide) _).trans rfl,
    filter_graph_eq_singleton hn fun m hm => ?_, decoded?_secret hndraft⟩,
    (parameter?_of_drawn hdraft (by decide) _).trans rfl⟩
  have hdescribes := describes_of_mem hg s.rendering hm
  have hisOf := hdescribes.isOf_iff .secret
  have hname : ResourceKind.secret.manifestName = "Secret" := rfl
  rw [hname] at hisOf
  simp only [Json.isSecretAt, Bool.and_eq_true, decide_eq_true_iff, hisOf, hdescribes.name,
    hdescribes.objectNamespace]
  constructor
  · rintro ⟨⟨hkind, -⟩, -⟩
    exact eq_of_draft_eq hm hn ((draft_of_kind hg (p := .secret) rfl hm hkind).trans hndraft.symm)
  · rintro rfl
    have hkind : m.kind = .secret := kind_of_drawn hndraft
    rw [if_pos hkind, name_of_ground hground hndraft]
    exact ⟨⟨hkind, rfl⟩, rfl⟩

/-- **Without a password the provider manages one.** -/
theorem leavesPassword (hg : g.nodes.map Node.draft = s.drafts none)
    (hdraft : cluster.draft = s.drawn none .cluster) :
    Connection.LeavesPassword (s.rendering.graph g) (s.rendering.connection (s.connection none))
      (s.rendering.node cluster) where
  shown := (Rendering.decoded?_connection _ _ _).trans rfl
  noSecret := by
    intro manifest hmem
    obtain ⟨n, hn, rfl⟩ := List.mem_map.1 hmem
    refine Bool.eq_false_iff.2 fun hisOf => ?_
    have hkind : n.kind = .secret :=
      ((describes_of_mem hg s.rendering hn).isOf_iff .secret).1 hisOf
    obtain ⟨p, hp, hpkind, -⟩ := exists_part_of_kind (p := .secret) hg hn nofun hkind
    obtain rfl : p = .secret := Part.eq_of_kind rfl hpkind
    cases Extent.mem_parts.1 hp
  noReference := (parameter?_of_drawn hdraft (by decide) _).trans rfl
  managed := (parameter?_of_drawn hdraft (by decide) _).trans rfl

end Scheme

namespace Blueprint

variable {σ : Type} {config : Config} {source : PasswordSource σ} {claim : Json} {state : σ}
  {b : Blueprint}

/-- **A client that believes the connection is right.** In the document of a
claim the secret of the connection says what the manifests say, and the
password is kept or left to the provider as the claim wants it. -/
theorem ofClaim_connection_agrees (h : (ofClaim config source claim state).1 = .ok b) :
    Spec.ofClaim claim = .ok b.spec ∧ ∃ resources secret cluster id,
      b.toJson.get? "resources" = some (.array resources) ∧ b.toJson.get? "secret" = some secret ∧
      Connection.Agrees b.spec resources secret cluster id ∧
      (b.spec.masterPassword.isSome ∨ b.spec.generatePassword = true →
        ∃ password, Connection.KeepsPassword resources secret cluster password) ∧
      (b.spec.masterPassword = none → b.spec.generatePassword = false →
        Connection.LeavesPassword resources secret cluster) := by
  obtain ⟨spec, -, hspec, -⟩ := exists_scheme h
  have hwanted := isSome_masterPassword_iff hspec h
  obtain ⟨s, password, g, hs, rfl, -, hg, rfl⟩ := exists_drawn hspec h
  obtain ⟨cluster, hcluster, hdraft⟩ := Scheme.exists_node hg (p := .cluster) (Or.inr rfl)
  refine ⟨hspec, _, _, _, _, rfl, rfl, Scheme.exists_agrees hg hcluster hdraft, ?_⟩
  have hwanted : password.isSome ↔ s.spec.masterPassword.isSome ∨ s.spec.generatePassword = true :=
    hwanted
  cases password with
  | some p =>
    refine ⟨fun _ => ⟨p, Scheme.keepsPassword hg hdraft⟩,
      fun (hnone : s.spec.masterPassword = none) hunwanted => ?_⟩
    rcases hwanted.1 rfl with hcarried | hfresh
    · rw [hnone] at hcarried
      cases hcarried
    · exact absurd (hunwanted.symm.trans hfresh) (by decide)
  | none =>
    refine ⟨fun hsome => ?_, fun _ _ => Scheme.leavesPassword hg hdraft⟩
    cases hwanted.2 hsome

/-- The connection of a claim that names its region agrees with its
resources, and its password is kept. -/
theorem ofClaim_connection_agrees_region :
    let claim := Json.object [("region", .text "us-west-2")]
    let source := PasswordSource.constant "correct-horse-battery"
    ∃ (b : Blueprint) (resources : List Json) (secret cluster : Json) (id password : String),
      (ofClaim {} source claim ()).1 = .ok b ∧
      b.toJson.get? "resources" = some (.array resources) ∧ b.toJson.get? "secret" = some secret ∧
      Connection.Agrees b.spec resources secret cluster id ∧
      Connection.KeepsPassword resources secret cluster password := by
  intro claim source
  have hspec : Spec.ofClaim claim = .ok (Spec.ofRegion "us-west-2") :=
    Spec.ofClaim_region (by decide +kernel) (by decide)
  obtain ⟨b, hb⟩ := exists_ofClaim_west hspec rfl rfl source ()
  obtain ⟨hread, resources, secret, cluster, id, hresources, hsecret, hagrees, hkeeps, -⟩ :=
    ofClaim_connection_agrees hb
  rw [← Except.ok.inj (hspec.symm.trans hread)] at hkeeps
  obtain ⟨password, hpassword⟩ := hkeeps (Or.inr rfl)
  exact ⟨b, resources, secret, cluster, id, password, hb, hresources, hsecret, hagrees, hpassword⟩

end Blueprint

end ClusterBlueprint
