import ClusterBlueprint.Proofs.Blueprint.Resources
import ClusterBlueprint.Proofs.Blueprint.SuffixNames
/-!
# Blueprint — environments of one claim

Claims that differ in the suffix of the environment are meant to have no
name in common. For what stands before the cluster that is so, whatever
else the claims ask for. The names of a cluster and its members can be
worked out from the spec alone (`Spec.clusterNames`), and two environments
have a name in common exactly when these lists have
(`disjoint_environmentNames_iff`).

They can have: the name of a member keeps its number and loses the end of
its cluster's name, and the end of that is the suffix
(`environments_share_member`). Names that fit as they are keep environments
apart (`Spec.disjoint_clusterNames`).
-/

namespace ClusterBlueprint

namespace Spec

open Naming Scheme

variable {spec spec' : Spec} {n : Nat}

/-- The name that is made for the cluster of a spec. -/
def madeCluster (spec : Spec) : String :=
  spec.claimName ++ "-cluster-" ++ spec.environmentSuffix

/-- The names that are made for the cluster of a spec and its members. -/
def clusterNames (spec : Spec) : List String :=
  spec.madeCluster ::
    (List.range spec.instanceCount).filterMap fun i => instanceName? spec.madeCluster (i + 1)

theorem toList_madeCluster (spec : Spec) :
    spec.madeCluster.toList = spec.claimName.toList ++ '-' :: (clusterWord ++ ['-']) ++
      spec.environmentSuffix.toList := by
  rw [madeCluster, String.toList_append, String.toList_append]
  rfl

theorem isAscii_madeCluster (hs : spec.Checked) : IsAscii spec.madeCluster.toList := by
  rw [toList_madeCluster]
  exact isAscii_append (isAscii_append hs.claimName.isAscii (by decide)) hs.suffix.isAscii

/-- Each member has a name. -/
theorem clusterNames_eq (hs : spec.Checked) :
    spec.clusterNames = spec.madeCluster ::
      (List.range spec.instanceCount).map fun i => memberName spec.madeCluster (i + 1) := by
  rw [clusterNames, ← List.filterMap_eq_map]
  refine congrArg (spec.madeCluster :: ·) (List.filterMap_congr fun i _ => ?_)
  exact instanceName?_eq (isAscii_madeCluster hs) (i + 1)

/-! ## Names that fit as they are -/

/-- The claim's name and the suffix leave room for a member's tail. -/
def Fits (spec : Spec) : Prop :=
  spec.claimName.toList.length + spec.environmentSuffix.toList.length ≤ 42

instance (spec : Spec) : Decidable spec.Fits := inferInstanceAs (Decidable (_ ≤ 42))

/-- **A member of a cluster whose name fits** has all of that name. -/
theorem memberName_of_fits (hs : spec.Checked) (hfits : spec.Fits) (hn : n ≤ 15) :
    memberName spec.madeCluster n = spec.madeCluster ++ memberTail n := by
  have htail := length_memberTail_le hn
  have hlast : spec.madeCluster.toList.getLast? ≠ some '-' := by
    obtain ⟨c, cs, hcs, -⟩ := hs.suffix.head
    rw [toList_madeCluster, List.getLast?_append_of_ne_nil _ (hcs ▸ List.cons_ne_nil c cs)]
    exact hs.suffix.last
  have hlength : spec.madeCluster.toList.length ≤
      longestName - (memberTail n).toList.length := by
    have hnine : ('-' :: (clusterWord ++ ['-'])).length = 9 := rfl
    rw [Fits] at hfits
    rw [toList_madeCluster, List.length_append, List.length_append, hnine, longestName]
    omega
  rw [memberName, memberStart, List.take_of_length_le hlength, trimmed_eq_self hlast,
    String.ofList_toList]

/-- Names made for one claim differ by what follows the cluster's word. -/
theorem madeCluster_eq_append_iff (hclaim : spec'.claimName = spec.claimName) {tail : String} :
    spec.madeCluster = spec'.madeCluster ++ tail ↔
      spec.environmentSuffix = spec'.environmentSuffix ++ tail := by
  rw [← String.toList_inj, ← String.toList_inj, String.toList_append, String.toList_append,
    toList_madeCluster, toList_madeCluster, hclaim, List.append_assoc _ _ tail.toList,
    List.append_cancel_left_eq]

/-- **Where names fit, environments are apart** unless one is named like a
member of the other. -/
theorem disjoint_clusterNames (hs : spec.Checked) (hs' : spec'.Checked)
    (hclaim : spec'.claimName = spec.claimName) (hfits : spec.Fits) (hfits' : spec'.Fits)
    (hne : spec.environmentSuffix ≠ spec'.environmentSuffix)
    (hfree : ∀ n, spec.environmentSuffix ≠ spec'.environmentSuffix ++ memberTail n)
    (hfree' : ∀ n, spec'.environmentSuffix ≠ spec.environmentSuffix ++ memberTail n) :
    spec.clusterNames.Disjoint spec'.clusterNames := by
  have hmade : spec.madeCluster ≠ spec'.madeCluster := fun h => by
    rw [← String.append_empty (s := spec'.madeCluster), madeCluster_eq_append_iff hclaim,
      String.append_empty] at h
    exact hne h
  have hcount := hs.instanceCount.2
  have hcount' := hs'.instanceCount.2
  rw [clusterNames_eq hs, clusterNames_eq hs']
  intro x hx hx'
  rcases List.mem_cons.1 hx with rfl | hx <;> rcases List.mem_cons.1 hx' with heq | hx'
  · exact hmade heq
  · obtain ⟨j, hj, heq⟩ := List.mem_map.1 hx'
    rw [memberName_of_fits hs' hfits' (by have := List.mem_range.1 hj; omega)] at heq
    exact hfree _ ((madeCluster_eq_append_iff hclaim).1 heq.symm)
  · obtain ⟨i, hi, rfl⟩ := List.mem_map.1 hx
    rw [memberName_of_fits hs hfits (by have := List.mem_range.1 hi; omega)] at heq
    exact hfree' _ ((madeCluster_eq_append_iff hclaim.symm).1 heq.symm)
  · obtain ⟨i, hi, rfl⟩ := List.mem_map.1 hx
    obtain ⟨j, hj, heq⟩ := List.mem_map.1 hx'
    have hordinal := eq_of_memberName_eq heq
    rw [memberName_of_fits hs' hfits' (by have := List.mem_range.1 hj; omega),
      memberName_of_fits hs hfits (by have := List.mem_range.1 hi; omega), hordinal] at heq
    refine hmade (String.toList_inj.1 ?_)
    have hlists := congrArg String.toList heq
    rw [String.toList_append, String.toList_append] at hlists
    exact (List.append_cancel_right hlists).symm

end Spec

namespace Scheme

variable {s : Scheme}

/-- The names of the cluster and its members are those that are made, where
the claim gives none. -/
theorem memberNames_eq (hs : s.spec.Checked) (hnone : s.spec.clusterName = none) :
    s.memberNames = s.spec.clusterNames := by
  have hcluster : s.clusterName = s.spec.madeCluster := by
    refine String.toList_inj.1 ?_
    rw [clusterName, hnone, Option.getD_none, toList_nameOf_cluster hs, clusterHead,
      Spec.toList_madeCluster]
  rw [memberNames, hcluster, Spec.clusterNames_eq hs]

end Scheme

namespace Blueprint

/-- The names of all resources but the parameter groups. -/
def environmentNames (b : Blueprint) : List String :=
  (b.graph.nodes.filter fun n => n.kind.namingPolicy = .suffix).map Node.name

end Blueprint

namespace Scheme

open Naming

variable {s s' : Scheme} {password : Option String} {g : Graph} {x : String}

/-- Every part but the parameter groups is named by the environment. -/
theorem namingPolicy_eq_suffix_iff (p : Part) :
    p.kind.namingPolicy = .suffix ↔ p.isVersioned = false := by
  rw [Part.isVersioned]
  cases p.kind.namingPolicy <;> decide

/-- **Names by environment are those of parts and of the cluster.** -/
theorem mem_environmentNames (hs : s.spec.Checked) (hnone : s.spec.clusterName = none)
    (hg : g.nodes.map Node.draft = s.drafts password) :
    x ∈ (s.blueprintOf password g).environmentNames ↔
      (∃ p ∈ s.ground password, p.isVersioned = false ∧ s.nameOf p = x) ∨
        x ∈ s.spec.clusterNames := by
  have hdrafts : (s.blueprintOf password g).environmentNames =
      ((s.drafts password).filter fun d => d.kind.namingPolicy = .suffix).map Draft.name := by
    rw [← hg, List.filter_map, List.map_map]
    rfl
  -- the cluster and its members are all named by the environment
  have hmembers : ((s.memberDrafts password).filter fun d => d.kind.namingPolicy = .suffix).map
      Draft.name = s.spec.clusterNames := by
    rw [List.filter_eq_self.2 fun d hd => ?_, map_memberDrafts_name, memberNames_eq hs hnone]
    rcases List.mem_cons.1 hd with rfl | hd
    · rfl
    · obtain ⟨i, -, rfl⟩ := List.mem_map.1 hd
      rfl
  have hname : ∀ p ∈ s.ground password, (s.drawn password p).name = s.nameOf p := fun p hp =>
    drawn_name s password fun h => cluster_not_mem_ground (h ▸ hp)
  rw [hdrafts, drafts, List.filter_append, List.map_append, List.mem_append, hmembers]
  refine or_congr_left ⟨fun h => ?_, ?_⟩
  · obtain ⟨d, hd, rfl⟩ := List.mem_map.1 h
    obtain ⟨hmem, hpolicy⟩ := List.mem_filter.1 hd
    obtain ⟨p, hp, rfl⟩ := List.mem_map.1 hmem
    rw [decide_eq_true_eq, drawn_kind, namingPolicy_eq_suffix_iff] at hpolicy
    exact ⟨p, hp, hpolicy, (hname p hp).symm⟩
  · rintro ⟨p, hp, hv, rfl⟩
    refine List.mem_map.2 ⟨s.drawn password p, List.mem_filter.2 ⟨List.mem_map_of_mem hp, ?_⟩,
      hname p hp⟩
    rw [decide_eq_true_eq, drawn_kind, namingPolicy_eq_suffix_iff]
    exact hv

/-- **A part has no name of the other environment.** -/
theorem nameOf_ne_of_mem_environmentNames {password' : Option String} {g' : Graph}
    (hs : s.spec.Checked) (hs' : s'.spec.Checked)
    (hclaim : s'.spec.claimName = s.spec.claimName) (hnone' : s'.spec.clusterName = none)
    (hsuffix : s'.spec.environmentSuffix ≠ s.spec.environmentSuffix)
    (hg' : g'.nodes.map Node.draft = s'.drafts password') {p : Part} (hp : p ∈ s.ground password)
    (hv : p.isVersioned = false) :
    s.nameOf p ∉ (s'.blueprintOf password' g').environmentNames := by
  have hnamed := mem_named hs hp
  -- no part of the other environment, and not its cluster, has the name
  have hparts : ∀ q ∈ Extent.named, q.isVersioned = false → s.nameOf p ≠ s'.nameOf q :=
    fun q hq hqv h => hsuffix (suffix_eq_of_nameOf_eq hs hs' hclaim hnamed hq hv hqv h).2.symm
  rw [mem_environmentNames hs' hnone' hg', ← memberNames_eq hs' hnone']
  rintro (⟨q, hq, hqv, heq⟩ | hmem)
  · exact hparts q (mem_named hs' hq) hqv heq.symm
  have hcluster : s'.clusterName = s'.nameOf .cluster := by
    rw [clusterName, hnone', Option.getD_none]
  rw [memberNames, hcluster] at hmem
  rcases List.mem_cons.1 hmem with heq | hmem
  · exact hparts .cluster List.mem_cons_self rfl heq
  · obtain ⟨i, hi, heq⟩ := List.mem_map.1 hmem
    have hfifteen := hs'.instanceCount.2
    have hlt := List.mem_range.1 hi
    exact memberName_ne_of_not_isVersioned hs hs' hclaim ((ground_subset hs password).subset hp) hv
      (by omega) heq

end Scheme

namespace Blueprint

variable {σ τ : Type} {config config' : Config} {claim claim' : Json} {spec spec' : Spec}
  {source : PasswordSource σ} {source' : PasswordSource τ} {state : σ} {state' : τ}
  {b b' : Blueprint}

/-- **Environments of one claim share a name exactly where their clusters
do.** Names that the claim gives its cluster, and those of the parameter
groups, are left aside. -/
theorem disjoint_environmentNames_iff (hspec : Spec.ofClaim claim = .ok spec)
    (hspec' : Spec.ofClaim claim' = .ok spec') (hclaim : spec'.claimName = spec.claimName)
    (hnone : spec.clusterName = none) (hnone' : spec'.clusterName = none)
    (hsuffix : spec'.environmentSuffix ≠ spec.environmentSuffix)
    (hb : (ofClaim config source claim state).1 = .ok b)
    (hb' : (ofClaim config' source' claim' state').1 = .ok b') :
    b.environmentNames.Disjoint b'.environmentNames ↔
      spec.clusterNames.Disjoint spec'.clusterNames := by
  obtain ⟨s, password, g, hs, rfl, -, hg, rfl⟩ := exists_drawn hspec hb
  obtain ⟨s', password', g', hs', rfl, -, hg', rfl⟩ := exists_drawn hspec' hb'
  constructor
  · intro hdisjoint x hx hx'
    exact hdisjoint ((Scheme.mem_environmentNames hs.spec hnone hg).2 (Or.inr hx))
      ((Scheme.mem_environmentNames hs'.spec hnone' hg').2 (Or.inr hx'))
  · intro hdisjoint x hx hx'
    -- a name of a part is none of the other environment, on either side
    rcases (Scheme.mem_environmentNames hs.spec hnone hg).1 hx with ⟨p, hp, hv, rfl⟩ | hmade
    · exact Scheme.nameOf_ne_of_mem_environmentNames hs.spec hs'.spec hclaim hnone' hsuffix hg' hp
        hv hx'
    rcases (Scheme.mem_environmentNames hs'.spec hnone' hg').1 hx' with ⟨q, hq, hv, rfl⟩ | hmade'
    · exact Scheme.nameOf_ne_of_mem_environmentNames hs'.spec hs.spec hclaim.symm hnone
        hsuffix.symm hg hq hv hx
    · exact hdisjoint hmade hmade'

/-- Environments that are called `dev` and `prod` share no name. -/
theorem disjoint_environmentNames_dev_prod :
    let dev := Json.object [("environmentSuffix", .text "dev"), ("region", .text "us-west-2")]
    let prod := Json.object
      [("azCount", .nat 2), ("environmentSuffix", .text "prod"), ("region", .text "eu-west-2")]
    let source := PasswordSource.constant "correct-horse-battery"
    ∃ b b' : Blueprint, (ofClaim {} source dev ()).1 = .ok b ∧
      (ofClaim {} source prod ()).1 = .ok b' ∧
        b.environmentNames.Disjoint b'.environmentNames := by
  intro dev prod source
  have hspec : Spec.ofClaim dev = .ok (Spec.ofRegion "us-west-2") :=
    Fallible.toOption_eq_some_iff.1 (by decide +kernel)
  have hspec' : Spec.ofClaim prod = .ok
      { Spec.ofRegion "eu-west-2" with zoneCount := 2, environmentSuffix := "prod" } :=
    Fallible.toOption_eq_some_iff.1 (by decide +kernel)
  have hletters' : Region.letters? "eu-west-2" = some ['a', 'b', 'c'] := by decide +kernel
  obtain ⟨b, hb⟩ := exists_ofClaim_west hspec rfl rfl source ()
  obtain ⟨b', hb'⟩ : ∃ b', (ofClaim {} source prod ()).1 = .ok b' :=
    exists_ofClaim_of_unnamed rfl hspec' hletters' (by decide) rfl source ()
  have hiff := disjoint_environmentNames_iff hspec hspec' rfl rfl rfl (by decide) hb hb'
  refine ⟨b, b', hb, hb', hiff.2 ?_⟩
  -- both are shorter than a member's tail, so neither ends with one
  have hlong : ∀ n (suffix : String) (other : String), suffix.toList.length ≤ 4 →
      suffix ≠ other ++ Naming.memberTail n := by
    rintro n _ other hshort rfl
    have htail := Scheme.lt_length_memberTail n
    rw [String.toList_append, List.length_append] at hshort
    omega
  exact Spec.disjoint_clusterNames (Spec.checked_of_check (Spec.check_of_ofClaim hspec))
    (Spec.checked_of_check (Spec.check_of_ofClaim hspec')) rfl (by decide) (by decide) (by decide)
    (fun n => hlong n _ _ (by decide)) (fun n => hlong n _ _ (by decide))

/-- **Two environments can share the name of a member**: with a long claim
name the suffixes are cut off where they differ. -/
theorem environments_share_member :
    let claim suffix := Json.object
      [("claimName", .text "bbbbbbbbbbbbbbbbbbbbbbbbbbbbbb"), ("environmentSuffix", .text suffix),
        ("region", .text "us-west-2")]
    let source := PasswordSource.constant "correct-horse-battery"
    ∃ (spec spec' : Spec) (b b' : Blueprint),
      Spec.ofClaim (claim "staging-eu-west-0001") = .ok spec ∧
      Spec.ofClaim (claim "staging-eu-west-0002") = .ok spec' ∧
      spec'.claimName = spec.claimName ∧ spec.clusterName = none ∧ spec'.clusterName = none ∧
      spec'.environmentSuffix ≠ spec.environmentSuffix ∧
      (ofClaim {} source (claim "staging-eu-west-0001") ()).1 = .ok b ∧
      (ofClaim {} source (claim "staging-eu-west-0002") ()).1 = .ok b' ∧
      "bbbbbbbbbbbbbbbbbbbbbbbbbbbbbb-cluster-staging-eu-we-instance-1" ∈ b.environmentNames ∧
      "bbbbbbbbbbbbbbbbbbbbbbbbbbbbbb-cluster-staging-eu-we-instance-1" ∈ b'.environmentNames := by
  intro claim source
  let spec suffix : Spec :=
    { Spec.ofRegion "us-west-2" with
      claimName := "bbbbbbbbbbbbbbbbbbbbbbbbbbbbbb", environmentSuffix := suffix }
  -- each of the two is read, compiled, and has the name
  have hshared : ∀ suffix, (Spec.ofClaim (claim suffix)).toOption = some (spec suffix) →
      "bbbbbbbbbbbbbbbbbbbbbbbbbbbbbb-cluster-staging-eu-we-instance-1" ∈
        (spec suffix).clusterNames →
      ∃ b, (ofClaim {} source (claim suffix) ()).1 = .ok b ∧
        "bbbbbbbbbbbbbbbbbbbbbbbbbbbbbb-cluster-staging-eu-we-instance-1" ∈
          b.environmentNames := by
    intro suffix hread hmade
    have hspec := Fallible.toOption_eq_some_iff.1 hread
    obtain ⟨b, hb⟩ := exists_ofClaim_west hspec rfl rfl source ()
    obtain ⟨s, password, g, hs, hsspec, -, hg, rfl⟩ := exists_drawn hspec hb
    refine ⟨_, hb, (Scheme.mem_environmentNames hs.spec ?_ hg).2 (Or.inr ?_)⟩
    · rw [hsspec]
      rfl
    · rw [hsspec]
      exact hmade
  have hread : (Spec.ofClaim (claim "staging-eu-west-0001")).toOption =
      some (spec "staging-eu-west-0001") := by decide +kernel
  have hread' : (Spec.ofClaim (claim "staging-eu-west-0002")).toOption =
      some (spec "staging-eu-west-0002") := by decide +kernel
  obtain ⟨b, hb, hname⟩ := hshared _ hread (by decide +kernel)
  obtain ⟨b', hb', hname'⟩ := hshared _ hread' (by decide +kernel)
  exact ⟨_, _, b, b', Fallible.toOption_eq_some_iff.1 hread, Fallible.toOption_eq_some_iff.1 hread',
    rfl, rfl, rfl, by decide, hb, hb', hname, hname'⟩

end Blueprint

end ClusterBlueprint
