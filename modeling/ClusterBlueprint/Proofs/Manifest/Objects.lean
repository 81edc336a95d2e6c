import ClusterBlueprint.Proofs.Manifest.Rendered
/-!
# Manifest — objects of the cluster's API

The API tells objects apart by their version, kind, namespace and name
(`ObjectKey`). Names in a graph are distinct, so its manifests describe
different objects. The secret of the connection is named outside the graph,
after the cluster, and stands in one namespace with the secret of the
password. The two are one object exactly when the claim chooses its names
so (`nodup_objectKeys_iff`), and there is a claim that does
(`connection_overwrites_password`).
-/

namespace ClusterBlueprint

/-- What tells objects of the cluster's API apart. -/
structure ObjectKey where
  apiVersion : Option String
  kind : Option String
  objectNamespace : Option String
  name : Option String
deriving DecidableEq

namespace ObjectKey

variable {r : Rendering} {n : Node} {manifest : Json}

/-- The key of the object that a manifest describes. -/
def of (manifest : Json) : ObjectKey where
  apiVersion := (manifest.get? "apiVersion").bind Json.text?
  kind := (manifest.get? "kind").bind Json.text?
  objectNamespace := (manifest.metadata? "namespace").bind Json.text?
  name := (manifest.metadata? "name").bind Json.text?

/-- The key of a resource's object. -/
theorem of_describes (h : r.Describes n manifest) :
    of manifest = ⟨some n.kind.apiVersion, some n.kind.manifestName,
      if n.kind = .secret then some r.objectNamespace else none, some n.name⟩ := by
  rw [of, h.apiVersion, h.kind, h.name, h.objectNamespace]
  split <;> rfl

/-- The key of the connection's object. -/
theorem of_connection (r : Rendering) (c : Connection) :
    of (r.connection c) = ⟨some "v1", some "Secret", some r.objectNamespace, some c.secretName⟩ :=
  rfl

/-- **The connection's object is another one than a resource's** unless
that is a secret of the same name. -/
theorem of_eq_connection_iff (h : r.Describes n manifest) (c : Connection) :
    of manifest = of (r.connection c) ↔ n.kind = .secret ∧ n.name = c.secretName := by
  rw [of_describes h, of_connection]
  by_cases hkind : n.kind = .secret
  · simp [hkind, ResourceKind.apiVersion, ResourceKind.manifestName]
  · simp [hkind]

/-- **Objects are all different** exactly when no secret of the graph has
the name of the connection's. -/
theorem nodup_iff {nodes : List Node} (hnames : (nodes.map Node.name).Nodup)
    (hdescribes : ∀ n ∈ nodes, r.Describes n (r.node n)) (c : Connection) :
    ((nodes.map r.node ++ [r.connection c]).map of).Nodup ↔
      ∀ n ∈ nodes, n.kind = .secret → n.name ≠ c.secretName := by
  have hkeys : ((nodes.map r.node).map of).Nodup := by
    have hkeyNames : ((nodes.map r.node).map of).map ObjectKey.name =
        (nodes.map Node.name).map some := by
      rw [List.map_map, List.map_map, List.map_map]
      exact List.map_congr_left fun n hn =>
        congrArg ObjectKey.name (of_describes (hdescribes n hn))
    refine List.Nodup.of_map ObjectKey.name ?_
    rw [hkeyNames]
    exact hnames.map fun _ _ => Option.some.inj
  rw [List.map_append, List.nodup_append]
  constructor
  · rintro ⟨-, -, hother⟩ n hn hkind hname
    refine hother (of (r.node n)) (List.mem_map_of_mem (List.mem_map_of_mem hn))
      (of (r.connection c)) (List.mem_singleton.2 rfl) ?_
    exact (of_eq_connection_iff (hdescribes n hn) c).2 ⟨hkind, hname⟩
  · intro hother
    refine ⟨hkeys, List.nodup_singleton _, ?_⟩
    rintro key hkey key' hkey' rfl
    obtain ⟨m, hm, rfl⟩ := List.mem_map.1 hkey
    obtain ⟨n, hn, rfl⟩ := List.mem_map.1 hm
    rw [List.map_singleton, List.mem_singleton] at hkey'
    obtain ⟨hkind, hname⟩ := (of_eq_connection_iff (hdescribes n hn) c).1 hkey'
    exact hother n hn hkind hname

end ObjectKey

namespace Spec

/-- The connection of a spec is called as the secret of its password. -/
def HidesPassword (spec : Spec) : Prop :=
  (spec.masterPassword.isSome ∨ spec.generatePassword = true) ∧
    ∃ name, spec.clusterName = some name ∧
      name ++ "-connection" = spec.claimName ++ "-password-" ++ spec.environmentSuffix

end Spec

namespace Scheme

open Naming

variable {s : Scheme} {password : Option String} {g : Graph}

/-- The name of the secret is short enough to stay whole. -/
theorem nameOf_secret_eq (hs : s.spec.Checked) :
    s.nameOf .secret = s.spec.claimName ++ "-password-" ++ s.spec.environmentSuffix := by
  have htail : s.tailOf .secret = "-password-" ++ s.spec.environmentSuffix := by
    refine String.toList_inj.1 ?_
    rw [toList_tailOf, ending_of_not_isVersioned rfl, String.toList_append]
    rfl
  have hfits : s.spec.claimName.toList.length + (s.tailOf .secret).toList.length ≤ longestName := by
    have hclaim := hs.claimName.length_le
    have hsuffix := hs.suffix.length_le
    have hten : "-password-".toList.length = 10 := rfl
    rw [htail, String.toList_append, List.length_append, hten, longestName]
    omega
  rw [nameOf, front_of_le hs.claimName.isAscii (isAscii_tailOf hs (by decide) rfl) hfits,
    String.ofList_toList, htail, String.append_assoc]

/-- **When the connection is called as the secret of the password**: only
where the claim names its cluster, since the name that is made goes on with
another word. -/
theorem connection_eq_nameOf_secret_iff (hs : s.spec.Checked) :
    s.clusterName ++ "-connection" = s.nameOf .secret ↔ ∃ name, s.spec.clusterName = some name ∧
      name ++ "-connection" = s.spec.claimName ++ "-password-" ++ s.spec.environmentSuffix := by
  rw [nameOf_secret_eq hs, clusterName]
  cases hname : s.spec.clusterName with
  | some name => simp
  | none =>
    refine iff_of_false (fun h => ?_) (by simp)
    have hlists := congrArg String.toList h
    rw [Option.getD_none, String.toList_append, toList_nameOf_cluster hs, clusterHead,
      String.toList_append, String.toList_append] at hlists
    simp only [List.append_assoc, List.append_cancel_left_eq] at hlists
    have hsecond := congrArg (fun cs => cs[1]?) hlists
    exact absurd hsecond (by simp [clusterWord])

/-- A secret of the graph has the connection's name. -/
theorem exists_secret_iff (hg : g.nodes.map Node.draft = s.drafts password) :
    (∃ n ∈ g.nodes, n.kind = .secret ∧ n.name = s.clusterName ++ "-connection") ↔
      password.isSome ∧ s.clusterName ++ "-connection" = s.nameOf .secret := by
  constructor
  · rintro ⟨n, hn, hkind, hname⟩
    have hdraft : n.draft = s.drawn password .secret := draft_of_kind hg (p := .secret) rfl hn hkind
    refine ⟨?_, hname ▸ name_of_drawn hdraft⟩
    rcases draft_cases hg hn with ⟨p, hp, hpn⟩ | ⟨i, -, hin⟩
    · obtain rfl : p = .secret := Part.eq_of_kind rfl ((kind_of_drawn hpn).symm.trans hkind)
      rcases hp with hp | hp
      · exact Extent.mem_parts.1 hp
      · cases hp
    · rw [kind_of_member hin] at hkind
      cases hkind
  · rintro ⟨hsome, hname⟩
    obtain ⟨n, hn, hdraft⟩ := exists_node hg (Or.inl (Extent.mem_parts.2 hsome :
      .secret ∈ s.ground password))
    exact ⟨n, hn, kind_of_drawn hdraft, (name_of_drawn hdraft).trans hname.symm⟩

/-- **The manifests of a drawn graph and its connection describe different
objects** unless the connection is called as the secret of the password. -/
theorem nodup_keys_iff (hs : s.spec.Checked) (hg : g.nodes.map Node.draft = s.drafts password)
    (r : Rendering) :
    ((g.nodes.map r.node ++ [r.connection (s.connection password)]).map ObjectKey.of).Nodup ↔
      ¬ (password.isSome ∧ ∃ name, s.spec.clusterName = some name ∧
        name ++ "-connection" = s.spec.claimName ++ "-password-" ++ s.spec.environmentSuffix) := by
  have hname : (s.connection password).secretName = s.clusterName ++ "-connection" := rfl
  rw [ObjectKey.nodup_iff (Graph.sound_nodes g).names fun n hn => describes_of_mem hg r hn,
    hname, ← connection_eq_nameOf_secret_iff hs, ← exists_secret_iff hg]
  simp only [not_exists, not_and, ne_eq]

/-- A text whose last word is longer or shorter than a digest names no
parameter group. -/
theorem ne_nameOf_of_isVersioned (hh : s.config.hashLength = 10) {p : Part}
    (hv : p.isVersioned = true) {name : String}
    (hname : ∀ w ∈ (words name.toList).getLast?, w.length ≠ 10) : name ≠ s.nameOf p := by
  rintro rfl
  rw [words_nameOf, words_ending hv, ← List.append_assoc] at hname
  refine hname (s.digits p) (by simp) ?_
  rw [length_digits, hh]
  rfl

end Scheme

namespace Blueprint

variable {σ : Type} {config : Config} {source : PasswordSource σ} {claim : Json} {state : σ}
  {spec : Spec} {b : Blueprint}

/-- **A document describes no object twice** unless its connection is
called as the secret of the password. -/
theorem nodup_objectKeys_iff (hspec : Spec.ofClaim claim = .ok spec)
    (h : (ofClaim config source claim state).1 = .ok b) :
    ∃ resources secret, b.toJson.get? "resources" = some (.array resources) ∧
      b.toJson.get? "secret" = some secret ∧
        (((resources ++ [secret]).map ObjectKey.of).Nodup ↔ ¬ spec.HidesPassword) := by
  have hpassword := isSome_masterPassword_iff hspec h
  obtain ⟨s, password, g, hs, rfl, -, hg, rfl⟩ := exists_drawn hspec h
  refine ⟨_, _, rfl, rfl, ?_⟩
  rw [Spec.HidesPassword, ← hpassword]
  exact Scheme.nodup_keys_iff hs.spec hg (Rendering.of s.spec s.config)

/-- A claim that names its region is handed over without repeats. -/
theorem nodup_objectKeys_region :
    let claim := Json.object [("region", .text "us-west-2")]
    let source := PasswordSource.constant "correct-horse-battery"
    ∃ (b : Blueprint) (resources : List Json) (secret : Json),
      (ofClaim {} source claim ()).1 = .ok b ∧
      b.toJson.get? "resources" = some (.array resources) ∧
      b.toJson.get? "secret" = some secret ∧ ((resources ++ [secret]).map ObjectKey.of).Nodup := by
  intro claim source
  have hspec : Spec.ofClaim claim = .ok (Spec.ofRegion "us-west-2") :=
    Spec.ofClaim_region (by decide +kernel) (by decide)
  obtain ⟨b, hb⟩ := exists_ofClaim_west hspec rfl rfl source ()
  obtain ⟨resources, secret, hresources, hsecret, hiff⟩ := nodup_objectKeys_iff hspec hb
  refine ⟨b, resources, secret, hb, hresources, hsecret, hiff.2 ?_⟩
  rintro ⟨-, name, hname, -⟩
  cases hname

/-- **A claim can have its connection overwrite the password**: a cluster
called `vectordb-password` in an environment called `connection` has two
secrets of one name. -/
theorem connection_overwrites_password :
    let claim := Json.object
      [("clusterName", .text "vectordb-password"), ("environmentSuffix", .text "connection"),
        ("region", .text "us-west-2")]
    let source := PasswordSource.constant "correct-horse-battery"
    ∃ (b : Blueprint) (resources : List Json) (secret : Json),
      (ofClaim {} source claim ()).1 = .ok b ∧
      b.toJson.get? "resources" = some (.array resources) ∧
      b.toJson.get? "secret" = some secret ∧
        ¬ ((resources ++ [secret]).map ObjectKey.of).Nodup := by
  intro claim source
  let spec : Spec :=
    { Spec.ofRegion "us-west-2" with
      clusterName := some "vectordb-password", environmentSuffix := "connection" }
  have hspec : Spec.ofClaim claim = .ok spec := Fallible.toOption_eq_some_iff.1 (by decide +kernel)
  have hletters : Region.letters? "us-west-2" = some ['a', 'b', 'c', 'd'] := by decide +kernel
  -- within the graph all names are distinct
  let s := Scheme.planned {} spec ['a', 'b', 'c', 'd']
  have hlast : ∀ name ∈ s.memberNames, ∀ w ∈ (Naming.words name.toList).getLast?,
      w.length ≠ 10 := by decide +kernel
  have hsuffix : ∀ p ∈ Extent.widest.parts, p.isVersioned = false →
      ∀ name ∈ s.memberNames, name ≠ s.nameOf p := by decide +kernel
  have hchecked : s.spec.Checked := Spec.checked_of_check (Spec.check_of_ofClaim hspec)
  have hnodup : ∀ password, (s.groundNames password ++ s.memberNames).Nodup := by
    intro password
    refine List.nodup_append.2
      ⟨Scheme.nodup_groundNames rfl hchecked password, by decide +kernel, ?_⟩
    rintro x hx name hname rfl
    rw [Scheme.groundNames_eq] at hx
    obtain ⟨p, hp, rfl⟩ := List.mem_map.1 hx
    cases hv : p.isVersioned with
    | true => exact Scheme.ne_nameOf_of_isVersioned rfl hv (hlast _ hname) rfl
    | false =>
      exact hsuffix p ((Scheme.ground_subset hchecked password).subset hp) hv _ hname rfl
  obtain ⟨b, hb⟩ : ∃ b, (ofClaim {} source claim ()).1 = .ok b :=
    exists_ofClaim_of_nodup rfl hspec hletters (by decide) hnodup source ()
  have hpassword := (isSome_masterPassword_iff hspec hb).2 (Or.inr rfl)
  obtain ⟨t, password, g, ht, htspec, -, hg, rfl⟩ := exists_drawn hspec hb
  refine ⟨_, _, _, hb, rfl, rfl, fun hkeys => ?_⟩
  refine (Scheme.nodup_keys_iff ht.spec hg (Rendering.of t.spec t.config)).1 hkeys
    ⟨hpassword, "vectordb-password", ?_, ?_⟩
  · rw [htspec]
  · rw [htspec]
    decide

end Blueprint

end ClusterBlueprint
