import ClusterBlueprint.Proofs.Blueprint.Resources
/-!
# Blueprint — what renames a resource

A name at the provider is made from the claim's name, the environment's
suffix and the name that the claim may give its cluster. Two claims that
agree on these three name every resource they both have alike
(`ofClaim_names`), whatever else sets them apart. The parameter groups are
the exception that the naming policy makes: their names carry the major
version of the engine, and change exactly when it does. That is read off
the last two words of the name, the version and the digits, so it does not
matter how the start was shortened or which digits there are.
-/

namespace ClusterBlueprint

namespace Spec

/-- Two specs agree on everything that names are made from. -/
structure NamesAlike (spec spec' : Spec) : Prop where
  claimName : spec'.claimName = spec.claimName
  suffix : spec'.environmentSuffix = spec.environmentSuffix
  clusterName : spec'.clusterName = spec.clusterName

end Spec

namespace Scheme

open Naming

variable {s s' : Scheme} {p : Part}

/-! ## The tail of a name -/

/-- A tail by environment depends on the suffix alone. -/
theorem tailOf_congr (hsuffix : s'.spec.environmentSuffix = s.spec.environmentSuffix)
    (hv : p.isVersioned = false) : s'.tailOf p = s.tailOf p := by
  simp only [tailOf, hv, Bool.false_eq_true, if_false, Namer.tail, namer, Namer.of, hsuffix]

/-- A tail by version and content depends on the version and the settings
as well. -/
theorem tailOf_congr_of_version (hconfig : s'.config = s.config)
    (hsuffix : s'.spec.environmentSuffix = s.spec.environmentSuffix)
    (hversion : s'.spec.majorVersion = s.spec.majorVersion) (hv : p.isVersioned = true) :
    s'.tailOf p = s.tailOf p := by
  have hfamily : s'.spec.parameterFamily = s.spec.parameterFamily :=
    congrArg (fun major : Nat => "aurora-postgresql" ++ toString major) hversion
  simp only [tailOf, hv, if_true, Namer.versionedTail, Namer.contentDigest, namer, Namer.of,
    parameterVersion, parameterContent, parameters, hfamily, hconfig, hsuffix, hversion]

/-- A name is that of the claim's name and the tail. -/
theorem nameOf_congr (hclaim : s'.spec.claimName = s.spec.claimName)
    (htail : s'.tailOf p = s.tailOf p) : s'.nameOf p = s.nameOf p := by
  rw [nameOf, nameOf, hclaim, htail]

/-! ## The version in a name -/

/-- **The version can be read off a versioned name**: it is the last word
but one. -/
theorem majorVersion_of_nameOf_eq (hv : p.isVersioned = true) (h : s'.nameOf p = s.nameOf p) :
    s'.spec.majorVersion = s.spec.majorVersion := by
  have heq : words (s'.nameOf p).toList = words (s.nameOf p).toList := by rw [h]
  simp only [words_nameOf, words_ending hv, ← List.append_assoc] at heq
  have hlast := (List.append_inj' heq (by simp)).2
  simp only [List.cons.injEq, toList_parameterVersion] at hlast
  exact toString_nat_injective hlast.1.2.2

/-- **Parameter groups have one name exactly as long as the version
stays.** -/
theorem nameOf_eq_iff_of_isVersioned (hconfig : s'.config = s.config)
    (halike : s.spec.NamesAlike s'.spec) (hv : p.isVersioned = true) :
    s'.nameOf p = s.nameOf p ↔ s'.spec.majorVersion = s.spec.majorVersion := by
  constructor
  · exact majorVersion_of_nameOf_eq hv
  · intro hversion
    exact nameOf_congr halike.claimName
      (tailOf_congr_of_version hconfig halike.suffix hversion hv)

/-- The cluster keeps its name, given or made. -/
theorem clusterName_congr (halike : s.spec.NamesAlike s'.spec) :
    s'.clusterName = s.clusterName := by
  have hmade : s'.nameOf .cluster = s.nameOf .cluster :=
    nameOf_congr halike.claimName (tailOf_congr halike.suffix rfl)
  rw [clusterName, clusterName, halike.clusterName, hmade]

/-! ## Resources of two graphs -/

variable {password password' : Option String} {n n' : Node}

/-- The ids of the parameter groups. -/
def parameterGroupIds : List String := ["cluster-parameter-group", "parameter-group"]

theorem mem_parameterGroupIds :
    ∀ p ∈ Extent.named, p.id ∈ parameterGroupIds ↔ p.isVersioned = true := by
  decide +kernel

/-- What two resources of one id have in common: the kind, and the name as
far as the version allows. -/
structure Kept (s s' : Scheme) (n n' : Node) : Prop where
  kind : n'.kind = n.kind
  name : n.id ∉ parameterGroupIds → n'.name = n.name
  versioned : n.id ∈ parameterGroupIds →
    (n'.name = n.name ↔ s'.spec.majorVersion = s.spec.majorVersion)

/-- Two drawings of a part. -/
theorem kept_of_part (hconfig : s'.config = s.config) (halike : s.spec.NamesAlike s'.spec)
    (hp : p ∈ Extent.named) (hn : n.draft = s.drawn password p)
    (hn' : n'.draft = s'.drawn password' p) : Kept s s' n n' := by
  have hids : n.id ∈ parameterGroupIds ↔ p.isVersioned = true :=
    id_of_drawn hn ▸ mem_parameterGroupIds p hp
  have hname := name_of_drawn hn
  have hname' := name_of_drawn hn'
  refine ⟨(kind_of_drawn hn').trans (kind_of_drawn hn).symm, fun hid => ?_, fun hid => ?_⟩
  · have hv : p.isVersioned = false := Bool.eq_false_iff.2 fun h => hid (hids.2 h)
    rw [hname, hname', clusterName_congr halike,
      nameOf_congr halike.claimName (tailOf_congr halike.suffix hv)]
  · have hv : p.isVersioned = true := hids.1 hid
    have hcluster : p ≠ .cluster := by
      rintro rfl
      cases hv
    rw [hname, hname', if_neg hcluster, if_neg hcluster]
    exact nameOf_eq_iff_of_isVersioned hconfig halike hv

/-- Two drawings of a member. -/
theorem kept_of_member (halike : s.spec.NamesAlike s'.spec) {i : Nat} (hi : i < 15)
    (hn : n.draft = s.member i) (hn' : n'.draft = s'.member i) : Kept s s' n n' := by
  have hfree : n.id ∉ parameterGroupIds := by
    rw [id_of_member hn]
    intro hmem
    rcases List.mem_cons.1 hmem with h | h
    · exact Part.id_ne_memberId (p := .clusterParameters) (by decide) hi h.symm
    · exact Part.id_ne_memberId (p := .instanceParameters) (by decide) hi
        (List.mem_singleton.1 h).symm
  refine ⟨(kind_of_member hn').trans (kind_of_member hn).symm, fun _ => ?_,
    fun h => absurd h hfree⟩
  rw [name_of_member hn, name_of_member hn', clusterName_congr halike]

/-- **Resources of one id are kept** from one graph to the other. -/
theorem kept_of_id_eq {g g' : Graph} (hs : s.spec.Checked) (hs' : s'.spec.Checked)
    (hconfig : s'.config = s.config) (halike : s.spec.NamesAlike s'.spec)
    (hg : g.nodes.map Node.draft = s.drafts password)
    (hg' : g'.nodes.map Node.draft = s'.drafts password') (hn : n ∈ g.nodes) (hn' : n' ∈ g'.nodes)
    (hid : n'.id = n.id) : Kept s s' n n' := by
  have hfifteen := hs.instanceCount.2
  have hfifteen' := hs'.instanceCount.2
  rcases draft_cases hg hn with ⟨p, hp, hpn⟩ | ⟨i, hi, hin⟩ <;>
    rcases draft_cases hg' hn' with ⟨q, hq, hqn⟩ | ⟨j, hj, hjn⟩
  · have hp := mem_named_of_drawn hs hp
    have hq := mem_named_of_drawn hs' hq
    rw [id_of_drawn hpn, id_of_drawn hqn] at hid
    obtain rfl := Part.eq_of_id_eq hq hp hid
    exact kept_of_part hconfig halike hp hpn hqn
  -- a part has no member's id
  · rw [id_of_drawn hpn, id_of_member hjn] at hid
    exact absurd hid.symm (Part.id_ne_memberId (mem_named_of_drawn hs hp) (by omega))
  · rw [id_of_drawn hqn, id_of_member hin] at hid
    exact absurd hid (Part.id_ne_memberId (mem_named_of_drawn hs' hq) (by omega))
  · rw [id_of_member hin, id_of_member hjn] at hid
    obtain rfl := Part.eq_of_memberId_eq (by omega) (by omega) hid
    exact kept_of_member halike (by omega) hin hjn

end Scheme

namespace Blueprint

variable {σ τ : Type} {config : Config} {claim claim' : Json} {spec spec' : Spec}
  {source : PasswordSource σ} {source' : PasswordSource τ} {state : σ} {state' : τ}
  {b b' : Blueprint}

/-- **Only the naming fields rename resources.** Where two claims agree on
them, a resource of one id has one kind and one name in both, and a
parameter group has one name exactly when the major versions are equal. -/
theorem ofClaim_names (hspec : Spec.ofClaim claim = .ok spec)
    (hspec' : Spec.ofClaim claim' = .ok spec') (halike : spec.NamesAlike spec')
    (hb : (ofClaim config source claim state).1 = .ok b)
    (hb' : (ofClaim config source' claim' state').1 = .ok b') :
    ∀ n ∈ b.graph.nodes, ∀ n' ∈ b'.graph.nodes, n'.id = n.id →
      n'.kind = n.kind ∧
        if n.id = "cluster-parameter-group" ∨ n.id = "parameter-group" then
          (n'.name = n.name ↔ spec'.majorVersion = spec.majorVersion)
        else n'.name = n.name := by
  intro n hn n' hn' hid
  obtain ⟨s, password, g, hs, rfl, rfl, hg, rfl⟩ := exists_drawn hspec hb
  obtain ⟨s', password', g', hs', rfl, hconfig, hg', rfl⟩ := exists_drawn hspec' hb'
  have hkept := Scheme.kept_of_id_eq hs.spec hs'.spec hconfig halike hg hg' hn hn' hid
  refine ⟨hkept.kind, ?_⟩
  split
  · next h => exact hkept.versioned (by simpa [Scheme.parameterGroupIds] using h)
  · next h => exact hkept.name (by simpa [Scheme.parameterGroupIds] using h)

/-- A claim of the defaults and one for an older engine in a single zone
share the name of the subnet group, and have parameter groups of their
own. -/
theorem ofClaim_names_older :
    let claim := Json.object [("region", .text "us-west-2")]
    let older := Json.object
      [("azCount", .nat 1), ("engineVersion", .text "15.4"), ("region", .text "us-west-2")]
    let source := PasswordSource.constant "correct-horse-battery"
    ∃ b b' : Blueprint, (ofClaim {} source claim ()).1 = .ok b ∧
      (ofClaim {} source older ()).1 = .ok b' ∧
        (∃ n ∈ b.graph.nodes, ∃ n' ∈ b'.graph.nodes, n.id = "subnet-group" ∧ n'.id = n.id ∧
          n'.name = n.name) ∧
        ∃ n ∈ b.graph.nodes, ∃ n' ∈ b'.graph.nodes, n.id = "parameter-group" ∧ n'.id = n.id ∧
          n'.name ≠ n.name := by
  intro claim older source
  have hspec : Spec.ofClaim claim = .ok (Spec.ofRegion "us-west-2") :=
    Fallible.toOption_eq_some_iff.1 (by decide +kernel)
  have hspec' : Spec.ofClaim older =
      .ok { Spec.ofRegion "us-west-2" with zoneCount := 1, engineVersion := "15.4" } :=
    Fallible.toOption_eq_some_iff.1 (by decide +kernel)
  obtain ⟨b, hb⟩ := exists_ofClaim_west hspec rfl rfl source ()
  obtain ⟨b', hb'⟩ := exists_ofClaim_west hspec' rfl rfl source ()
  have hnames := ofClaim_names hspec hspec' ⟨rfl, rfl, rfl⟩ hb hb'
  refine ⟨b, b', hb, hb', ?_, ?_⟩
  · obtain ⟨n, hn, hid⟩ := exists_resource hspec hb (p := .subnetGroup) fun _ => trivial
    obtain ⟨n', hn', hid'⟩ := exists_resource hspec' hb' (p := .subnetGroup) fun _ => trivial
    obtain ⟨-, hname⟩ := hnames n hn n' hn' (hid'.trans hid.symm)
    rw [hid, if_neg (by decide)] at hname
    exact ⟨n, hn, n', hn', hid, hid'.trans hid.symm, hname⟩
  · obtain ⟨n, hn, hid⟩ := exists_resource hspec hb (p := .instanceParameters) fun _ => trivial
    obtain ⟨n', hn', hid'⟩ := exists_resource hspec' hb' (p := .instanceParameters) fun _ => trivial
    obtain ⟨-, hname⟩ := hnames n hn n' hn' (hid'.trans hid.symm)
    rw [hid, if_pos (by decide)] at hname
    refine ⟨n, hn, n', hn', hid, hid'.trans hid.symm, fun heq => ?_⟩
    exact absurd (hname.1 heq) (by decide +kernel)

end Blueprint

end ClusterBlueprint
