import ClusterBlueprint.Proofs.Blueprint.Resources
/-!
# Blueprint — the names that are asked for

A blueprint asks its namer for names by environment: for a kind, and for
what tells several resources of the kind apart. What can be asked for does
not depend on the claim's name or the suffix. It is the parts that are
named by environment and nothing else (`asked_iff`), and every resource
with such a name was given what was asked for (`exists_asks_of_node`). So
what holds of the stems of parts holds of every name, under all labels that
a claim may bring: tails are never cut, and are enough to tell names apart.
-/

namespace ClusterBlueprint

open Naming

/-! ## What is asked for -/

namespace Scheme

/-- What the blueprint of a scheme asks names by environment for: a kind,
and what tells resources of the kind apart. -/
inductive Asks (s : Scheme) : ResourceKind → Option String → Prop
  | vpc : Asks s .vpc none
  | gateway : Asks s .internetGateway none
  | subnet {a : Allocation} (h : a ∈ s.plan.allocations) :
      Asks s .subnet (some (SubnetNames.place a.tier a.zone))
  | association {a : Allocation} (h : a ∈ s.plan.allocations) :
      Asks s .routeTableAssociation (some (SubnetNames.place a.tier a.zone))
  /-- For the association of a subnet. -/
  | tableOf {a : Allocation} (h : a ∈ s.plan.allocations) : Asks s .routeTable (some a.tier.text)
  | table {t : Tier} (h : t ∈ s.plan.tiers) : Asks s .routeTable (some t.text)
  | route {t : Tier} (h : t ∈ s.plan.tiers) : Asks s .route (some (t.text ++ "-internet"))
  | securityGroup : Asks s .securityGroup none
  | ingress : Asks s .securityGroupRule (some "ingress")
  | egress : Asks s .securityGroupRule (some "egress")
  | role : Asks s .role none
  | rolePolicy : Asks s .rolePolicyAttachment none
  | subnetGroup : Asks s .subnetGroup none
  | secret : Asks s .secret none
  /-- Unless the claim names the cluster. -/
  | cluster (h : s.spec.clusterName = none) : Asks s .cluster none

variable {s : Scheme} {kind : ResourceKind} {extra : Option String} {p : Part}

/-- What a scheme might draw: everything in its zones and tiers. -/
def drawable (s : Scheme) : Extent where
  zones := s.spec.zoneCount
  tiers := s.spec.tiers
  routed := fun _ => true
  monitored := true
  hasSecret := true

theorem mem_allocations (hs : s.Sound) {a : Allocation} (ha : a ∈ s.plan.allocations) :
    a.tier ∈ s.spec.tiers ∧ a.zone < s.spec.zoneCount := by
  rw [hs.plan] at ha
  obtain ⟨place, hplace, rfl⟩ := List.mem_map.1 ha
  exact Plan.mem_places.1 hplace

theorem exists_allocation (hs : s.Sound) {t : Tier} {z : Nat} (ht : t ∈ s.spec.tiers)
    (hz : z < s.spec.zoneCount) : ∃ a ∈ s.plan.allocations, a.tier = t ∧ a.zone = z := by
  rw [hs.plan]
  exact ⟨_, List.mem_map_of_mem (Plan.mem_places.2 ⟨ht, hz⟩), rfl, rfl⟩

theorem mem_plan_tiers (hs : s.Sound) {t : Tier} : t ∈ s.plan.tiers ↔ t ∈ s.spec.tiers := by
  rw [hs.plan, Plan.tiers_eq (Nat.lt_of_succ_le hs.spec.zoneCount.1), Plan.mem_layout]

/-- **What is asked for is a part** that might be drawn and is named by
environment. -/
theorem exists_part_of_asks (hs : s.Sound) (h : s.Asks kind extra) :
    ∃ p, (s.drawable.Has p ∨ p = .cluster) ∧ p.isVersioned = false ∧ p.kind = kind ∧
      p.extra = extra := by
  cases h with
  | vpc => exact ⟨.vpc, Or.inl trivial, rfl, rfl, rfl⟩
  | gateway => exact ⟨.gateway, Or.inl trivial, rfl, rfl, rfl⟩
  | @subnet a ha => exact ⟨.subnet a.tier a.zone, Or.inl (mem_allocations hs ha), rfl, rfl, rfl⟩
  | @association a ha =>
    exact ⟨.association a.tier a.zone, Or.inl (mem_allocations hs ha), rfl, rfl, rfl⟩
  | @tableOf a ha => exact ⟨.routeTable a.tier, Or.inl (mem_allocations hs ha).1, rfl, rfl, rfl⟩
  | @table t ht => exact ⟨.routeTable t, Or.inl ((mem_plan_tiers hs).1 ht), rfl, rfl, rfl⟩
  | @route t ht => exact ⟨.route t, Or.inl ⟨(mem_plan_tiers hs).1 ht, rfl⟩, rfl, rfl, rfl⟩
  | securityGroup => exact ⟨.securityGroup, Or.inl trivial, rfl, rfl, rfl⟩
  | ingress => exact ⟨.ingress, Or.inl trivial, rfl, rfl, rfl⟩
  | egress => exact ⟨.egress, Or.inl trivial, rfl, rfl, rfl⟩
  | role => exact ⟨.role, Or.inl rfl, rfl, rfl, rfl⟩
  | rolePolicy => exact ⟨.rolePolicy, Or.inl rfl, rfl, rfl, rfl⟩
  | subnetGroup => exact ⟨.subnetGroup, Or.inl trivial, rfl, rfl, rfl⟩
  | secret => exact ⟨.secret, Or.inl rfl, rfl, rfl, rfl⟩
  | cluster => exact ⟨.cluster, Or.inr rfl, rfl, rfl, rfl⟩

/-- **Every such part is asked for**, the cluster if it has no other name. -/
theorem asks_of_part (hs : s.Sound) (hv : p.isVersioned = false)
    (hp : s.drawable.Has p ∨ p = .cluster ∧ s.spec.clusterName = none) :
    s.Asks p.kind p.extra := by
  rcases hp with hp | ⟨rfl, hnone⟩
  · cases p with
    | vpc => exact .vpc
    | gateway => exact .gateway
    | subnet t i =>
      obtain ⟨a, ha, rfl, rfl⟩ := exists_allocation hs hp.1 hp.2
      exact .subnet ha
    | routeTable t => exact .table ((mem_plan_tiers hs).2 hp)
    | route t => exact .route ((mem_plan_tiers hs).2 hp.1)
    | association t i =>
      obtain ⟨a, ha, rfl, rfl⟩ := exists_allocation hs hp.1 hp.2
      exact .association ha
    | securityGroup => exact .securityGroup
    | ingress => exact .ingress
    | egress => exact .egress
    | role => exact .role
    | rolePolicy => exact .rolePolicy
    | clusterParameters => cases hv
    | instanceParameters => cases hv
    | subnetGroup => exact .subnetGroup
    | secret => exact .secret
    | cluster => exact hp.elim
  · exact .cluster hnone

/-- **Resources have the names that were asked for**: all those named by
environment, but for members and a cluster that the claim names. -/
theorem exists_asks_of_node (hs : s.Sound) {password : Option String} {g : Graph} {n : Node}
    (hg : g.nodes.map Node.draft = s.drafts password) (hn : n ∈ g.nodes)
    (hpolicy : n.kind.namingPolicy = .suffix) (hmember : n.kind ≠ .clusterInstance)
    (hcluster : n.kind = .cluster → s.spec.clusterName = none) :
    ∃ extra, s.Asks n.kind extra ∧ s.namer.name? n.kind extra = some n.name := by
  rcases draft_cases hg hn with ⟨p, hp, hdraft⟩ | ⟨i, -, hdraft⟩
  · have hkind := kind_of_drawn hdraft
    have hv : p.isVersioned = false := by
      rw [Part.isVersioned, ← hkind, hpolicy]
      rfl
    have hname := name?_eq hs.spec p hv
    have hdrawable : s.drawable.Has p ∨ p = .cluster ∧ s.spec.clusterName = none := by
      rcases hp with hp | rfl
      · have hwithin : (s.extent password).Within s.drawable :=
          ⟨Nat.le_refl _, List.Subset.refl _, fun _ _ => rfl, fun _ => rfl, fun _ => rfl⟩
        exact Or.inl (Extent.mem_parts.1 ((Extent.parts_sublist hwithin).subset hp))
      · exact Or.inr ⟨rfl, hcluster hkind⟩
    refine ⟨p.extra, hkind ▸ asks_of_part hs hv hdrawable, ?_⟩
    rw [hkind, hname, name_of_drawn hdraft]
    split
    · next h =>
      subst h
      rw [clusterName, hcluster hkind, Option.getD_none]
    · rfl
  · exact absurd (kind_of_member hdraft) hmember

end Scheme

/-- What some blueprint asks a name by environment for. -/
def Asked (kind : ResourceKind) (extra : Option String) : Prop :=
  ∃ (config : Config) (spec : Spec) (s : Scheme),
    Scheme.of config spec = .ok s ∧ s.Asks kind extra

variable {kind : ResourceKind} {extra : Option String}

/-- **What can be asked for**: the parts that are named by environment. The
defaults ask for all of them. -/
theorem asked_iff :
    Asked kind extra ↔
      ∃ p ∈ Extent.named, p.isVersioned = false ∧ p.kind = kind ∧ p.extra = extra := by
  constructor
  · rintro ⟨config, spec, s, hof, hasks⟩
    obtain ⟨hs, -, -⟩ := Scheme.sound_of hof
    obtain ⟨p, hp, hpart⟩ := Scheme.exists_part_of_asks hs hasks
    refine ⟨p, ?_, hpart⟩
    rcases hp with hp | rfl
    · have hwithin : s.drawable.Within Extent.widest := Extent.within_widest hs.spec.zoneCount.2
      exact List.mem_cons_of_mem _
        ((Extent.parts_sublist hwithin).subset (Extent.mem_parts.2 hp))
    · exact List.mem_cons_self
  · rintro ⟨p, hp, hv, rfl, rfl⟩
    have hletters : Region.letters? "us-west-2" = some ['a', 'b', 'c', 'd'] := by decide +kernel
    have hof : Scheme.of {} (Spec.ofRegion "us-west-2") =
        .ok (.planned {} (Spec.ofRegion "us-west-2") ['a', 'b', 'c', 'd']) :=
      Scheme.of_eq_ok_iff.2 ⟨_, Spec.check_ofRegion (by decide), hletters, by decide, rfl⟩
    obtain ⟨hs, -, -⟩ := Scheme.sound_of hof
    refine ⟨_, _, _, hof, Scheme.asks_of_part hs hv ?_⟩
    rcases List.mem_cons.1 hp with rfl | hp
    · exact Or.inr ⟨rfl, rfl⟩
    · exact Or.inl (Extent.mem_parts.1 hp)

/-! ## Names by environment -/

namespace Namer

variable {n : Namer} {p : Part}

/-- What a name by environment tells of what it names. -/
structure Identifies (n : Namer) (kind : ResourceKind) (extra : Option String) (name : String) :
    Prop where
  label : ∀ field, Rules.checkLabel field name 63 = .ok ()
  /-- The tail is never cut. -/
  tail : ∃ start, name = start ++ n.tail kind extra
  head : name.toList.head? = n.claimName.toList.head?
  /-- Where there is room nothing is cut. -/
  whole : (n.claimName ++ n.tail kind extra).utf8ByteSize ≤ 63 →
    name = n.claimName ++ n.tail kind extra

/-- The name by environment of a part. -/
def partName (n : Namer) (p : Part) : String :=
  String.ofList (front n.claimName (n.tail p.kind p.extra)) ++ n.tail p.kind p.extra

theorem toList_partName (n : Namer) (p : Part) :
    (n.partName p).toList =
      front n.claimName (n.tail p.kind p.extra) ++ '-' :: (p.stem ++ '-' :: n.suffix.toList) := by
  rw [partName, String.toList_append, String.toList_ofList, toList_tail]

/-- **Names by environment are labels.** -/
theorem label_partName (hclaim : Label 30 n.claimName) (hsuffix : Label 20 n.suffix)
    (hp : p ∈ Extent.named) : Label longestName (n.partName p) := by
  have hend := labelEnd_tail hsuffix hp
  have hroom := length_tail_lt hsuffix hp
  obtain ⟨c, cs, hcs, hc⟩ := hclaim.head
  refine label_append ?_ (fun d hd => isLabelChar_of_mem_front hclaim hd) hend ?_
  · have hhead := head?_front hclaim hend.isAscii hroom
    rw [hcs, List.head?_cons] at hhead
    obtain ⟨rest, hrest⟩ := List.head?_eq_some_iff.1 hhead
    exact ⟨c, rest, hrest, hc⟩
  · rw [length_front_add_le_iff hclaim hend.isAscii]
    omega

theorem identifies_partName (hclaim : Label 30 n.claimName) (hsuffix : Label 20 n.suffix)
    (hp : p ∈ Extent.named) : n.Identifies p.kind p.extra (n.partName p) := by
  have htail := (labelEnd_tail hsuffix hp).isAscii
  have hroom := length_tail_lt hsuffix hp
  have hhead := head?_front hclaim htail hroom
  refine ⟨fun field => checkLabel_eq_ok_iff.2 (label_partName hclaim hsuffix hp), ⟨_, rfl⟩, ?_, ?_⟩
  · obtain ⟨c, cs, hcs, -⟩ := hclaim.head
    rw [hcs, List.head?_cons] at hhead ⊢
    rw [toList_partName, List.head?_append, hhead]
    rfl
  · intro hfits
    rw [String.utf8ByteSize_append, utf8ByteSize_of_isAscii hclaim.isAscii,
      utf8ByteSize_of_isAscii htail] at hfits
    rw [partName, front_of_le hclaim.isAscii htail hfits, String.ofList_toList]

/-- **Names by environment keep their identity.** Whatever labels a claim
brings for its name and its suffix, everything that is asked for has a name
that ends in its own uncut tail, and no two names are the same. -/
theorem name?_identifies {field field' : String}
    (hclaim : Rules.checkLabel field n.claimName 30 = .ok ())
    (hsuffix : Rules.checkLabel field' n.suffix 20 = .ok ()) :
    (∀ kind extra, Asked kind extra →
        ∃ name, n.name? kind extra = some name ∧ n.Identifies kind extra name) ∧
      ∀ kind extra kind' extra', Asked kind extra → Asked kind' extra' →
        n.name? kind extra = n.name? kind' extra' → kind = kind' ∧ extra = extra' := by
  have hclaim := label_of_checkLabel hclaim
  have hsuffix := label_of_checkLabel hsuffix
  have hname : ∀ p : Part, n.name? p.kind p.extra = some (n.partName p) :=
    fun p => fit?_eq hclaim.isAscii
  constructor
  · intro kind extra hasked
    obtain ⟨p, hp, -, rfl, rfl⟩ := asked_iff.1 hasked
    exact ⟨_, hname p, identifies_partName hclaim hsuffix hp⟩
  · intro kind extra kind' extra' hasked hasked' heq
    obtain ⟨p, hp, -, rfl, rfl⟩ := asked_iff.1 hasked
    obtain ⟨q, hq, -, rfl, rfl⟩ := asked_iff.1 hasked'
    rw [hname p, hname q] at heq
    have hlist := congrArg String.toList (Option.some.inj heq)
    rw [toList_partName, toList_partName] at hlist
    obtain rfl : p = q := Part.eq_of_append_stem hp hq rfl hlist
    exact ⟨rfl, rfl⟩

/-- A suffix that speaks of a subnet does not make an association one. -/
theorem name?_identifies_speaking :
    let n : Namer :=
      { claimName := "analytics-vector-store-primary"
        suffix := "subnet-database-2-eu"
        project := "vectordb"
        hashLength := 10
        tags := Dict.empty }
    Rules.checkLabel "claimName" n.claimName 30 = .ok () ∧
      Rules.checkLabel "environmentSuffix" n.suffix 20 = .ok () ∧
      Asked .routeTableAssociation (some "database-2") ∧ Asked .subnet (some "database-2") ∧
      n.Identifies .routeTableAssociation (some "database-2")
        "analytics-064dd309-route-assoc-database-2-subnet-database-2-eu" ∧
      n.name? .routeTableAssociation (some "database-2") ≠ n.name? .subnet (some "database-2") := by
  intro n
  have hclaim : Rules.checkLabel "claimName" n.claimName 30 = .ok () :=
    Fallible.toOption_eq_some_iff.1 (by decide)
  have hsuffix : Rules.checkLabel "environmentSuffix" n.suffix 20 = .ok () :=
    Fallible.toOption_eq_some_iff.1 (by decide)
  have hassociation : Asked .routeTableAssociation (some "database-2") :=
    asked_iff.2 ⟨.association .database 2, by decide +kernel, rfl, rfl, rfl⟩
  have hsubnet : Asked .subnet (some "database-2") :=
    asked_iff.2 ⟨.subnet .database 2, by decide +kernel, rfl, rfl, rfl⟩
  obtain ⟨hidentifies, hinj⟩ := name?_identifies hclaim hsuffix
  obtain ⟨name, hname, hnamed⟩ := hidentifies _ _ hassociation
  have hvalue : n.name? .routeTableAssociation (some "database-2") =
      some "analytics-064dd309-route-assoc-database-2-subnet-database-2-eu" := by decide +kernel
  rw [Option.some.inj (hname.symm.trans hvalue)] at hnamed
  refine ⟨hclaim, hsuffix, hassociation, hsubnet, hnamed, fun heq => ?_⟩
  exact absurd (hinj _ _ _ _ hassociation hsubnet heq).1 (by decide)

end Namer

end ClusterBlueprint
