import ClusterBlueprint.Blueprint
import ClusterBlueprint.Proofs.Blueprint.MemberNames
import ClusterBlueprint.Proofs.Graph.References
/-!
# Blueprint — the drafts of a scheme

A scheme that was worked out from a spec has all the names it needs:
`Names.of` answers with `Scheme.names`, which gives each part its
`nameOf`. With these names the list of resources before the cluster is the
image of the parts of an extent under one function (`groundwork_eq`), and
each of them refers to the parts that `Scheme.uses` lists.
-/

namespace ClusterBlueprint

namespace Scheme

open Naming

variable {s : Scheme} {p : Part} {password : Option String}

/-- What holds of a scheme that was worked out from its spec. -/
structure Sound (s : Scheme) : Prop where
  checked : s.spec.check = .ok ()
  zones : s.zones.zones.length = s.spec.zoneCount
  plan : s.plan = ⟨s.spec.vpc,
    (Plan.places s.spec.zoneCount s.spec.tiers).map (Plan.allocationAt s.spec.vpc)⟩

theorem Sound.spec (h : s.Sound) : s.spec.Checked := Spec.checked_of_check h.checked

/-! ## Names -/

/-- The places of the subnets. -/
def places (s : Scheme) : List (Tier × Nat) := Plan.places s.spec.zoneCount s.spec.tiers

/-- The zone of an index, the empty text if there is none. -/
def zoneAt (s : Scheme) (index : Nat) : String := s.zones.zones.getD index ""

/-- The names around the subnet of a place. -/
def row (s : Scheme) (place : Tier × Nat) : SubnetNames where
  tier := place.1
  index := place.2
  block := Plan.blockAt s.spec.vpc place.1 place.2
  zone := s.zoneAt place.2
  subnet := s.nameOf (.subnet place.1 place.2)
  association := s.nameOf (.association place.1 place.2)
  routeTable := s.nameOf (.routeTable place.1)

/-- The names of a tier. -/
def tierRow (s : Scheme) (tier : Tier) : TierNames where
  tier := tier
  routeTable := s.nameOf (.routeTable tier)
  route := s.nameOf (.route tier)

/-- **Every name of the blueprint.** -/
def names (s : Scheme) : Names where
  vpc := s.nameOf .vpc
  gateway := s.nameOf .gateway
  subnets := s.places.map s.row
  tiers := (Plan.layout s.spec.tiers).map s.tierRow
  securityGroup := s.nameOf .securityGroup
  ingress := s.nameOf .ingress
  egress := s.nameOf .egress
  role := s.nameOf .role
  rolePolicy := s.nameOf .rolePolicy
  clusterParameters := s.nameOf .clusterParameters
  instanceParameters := s.nameOf .instanceParameters
  subnetGroup := s.nameOf .subnetGroup
  databaseSubnets := (List.range s.spec.zoneCount).map fun z => s.nameOf (.subnet .database z)
  secret := s.nameOf .secret
  cluster := s.clusterName
  instances := (List.range s.spec.instanceCount).map fun i => memberName s.clusterName (i + 1)

/-- A part that is named by the environment has its name. -/
theorem name?_eq (hs : s.spec.Checked) (p : Part) (hv : p.isVersioned = false) :
    s.namer.name? p.kind p.extra = some (s.nameOf p) := by
  rw [nameOf, tailOf_of_not_isVersioned hv]
  exact fit?_eq hs.claimName.isAscii

/-- A part that is named by its content has its name. -/
theorem parameterName_eq (hs : s.spec.Checked) (p : Part) (hv : p.isVersioned = true) :
    s.parameterName p.kind = .ok (s.nameOf p) := by
  have htail : s.tailOf p =
      s.namer.versionedTail p.kind s.parameterVersion (s.parameterContent p.kind) := by
    simp [tailOf, hv]
  rw [nameOf, htail]
  exact Namer.versionedName_eq hs.claimName.isAscii (of_decide_eq_true hv) _ _

theorem clusterName?_eq (hs : s.spec.Checked) : s.clusterName? = some s.clusterName := by
  unfold clusterName? clusterName
  cases s.spec.clusterName with
  | some name => rfl
  | none => exact name?_eq hs .cluster rfl

/-- The name of the cluster is ASCII. -/
theorem isAscii_clusterName (hs : s.spec.Checked) : IsAscii s.clusterName.toList := by
  unfold clusterName
  cases hname : s.spec.clusterName with
  | some name => exact (hs.clusterName name hname).isAscii
  | none =>
    rw [Option.getD_none, toList_nameOf_cluster hs, clusterHead]
    exact isAscii_append (isAscii_append hs.claimName.isAscii (by decide)) hs.suffix.isAscii

theorem subnetNames_eq (hs : s.spec.Checked) (place : Tier × Nat) :
    SubnetNames.of? s (s.zoneAt place.2) (Plan.allocationAt s.spec.vpc place) =
      some (s.row place) := by
  have hsubnet := name?_eq hs (.subnet place.1 place.2) rfl
  have hassociation := name?_eq hs (.association place.1 place.2) rfl
  have htable := name?_eq hs (.routeTable place.1) rfl
  simp only [Part.kind, Part.extra] at hsubnet hassociation htable
  simp only [SubnetNames.of?, Plan.allocationAt, hsubnet, hassociation, htable]
  rfl

theorem tierNames_eq (hs : s.spec.Checked) (tier : Tier) :
    TierNames.of? s tier = some (s.tierRow tier) := by
  have htable := name?_eq hs (.routeTable tier) rfl
  have hroute := name?_eq hs (.route tier) rfl
  simp only [Part.kind, Part.extra] at htable hroute
  simp only [TierNames.of?, htable, hroute]
  rfl

/-- The plan has a block for the database in each zone, so the subnet group
lists a subnet for each zone. -/
theorem databaseSubnets?_eq (hs : s.Sound) : s.databaseSubnets? = some s.names.databaseSubnets := by
  have hlength : (s.plan.tierBlocks .database).length = s.spec.zoneCount := by
    rw [hs.plan, Plan.tierBlocks_eq hs.spec.database, List.length_map, List.length_range]
  rw [databaseSubnets?, hlength]
  exact Fallible.mapM_eq_pure fun z _ => name?_eq hs.spec (.subnet .database z) rfl

/-- **They are the subnets that are drawn for the database.** -/
theorem databaseSubnets_eq (hd : .database ∈ s.spec.tiers) :
    s.names.databaseSubnets =
      (s.names.subnets.filter fun row => row.tier = .database).map SubnetNames.subnet := by
  have hrow : (fun row : SubnetNames => decide (row.tier = .database)) ∘ s.row =
      fun place => decide (place.1 = .database) := rfl
  have hsubnets : s.names.subnets = s.places.map s.row := rfl
  rw [hsubnets, List.filter_map, hrow, places, Plan.filter_places hd, List.map_map, List.map_map]
  rfl

/-- Each place of the plan has its row. -/
theorem subnets_eq (hs : s.Sound) :
    ((s.places.map fun place => s.zoneAt place.2).zip s.plan.allocations).mapM
        (fun (zone, a) => SubnetNames.of? s zone a) = some s.names.subnets := by
  have hsubnets : s.names.subnets = s.places.map s.row := rfl
  rw [hsubnets, hs.plan, places, List.zip_map', Fallible.mapM_eq_some_iff,
    List.forall₂_map_left_iff, List.forall₂_map_right_iff, List.forall₂_same]
  exact fun place _ => subnetNames_eq hs.spec place

/-- Each tier of the plan has its row. -/
theorem tiers_eq (hs : s.Sound) : s.plan.tiers.mapM (TierNames.of? s) = some s.names.tiers := by
  have hzones := hs.spec.zoneCount
  rw [hs.plan, Plan.tiers_eq (by omega)]
  exact Fallible.mapM_eq_pure fun tier _ => tierNames_eq hs.spec tier

/-- Each member of the cluster has its name. -/
theorem instances_eq (hs : s.spec.Checked) :
    (List.range s.spec.instanceCount).mapM (fun i => instanceName? s.clusterName (i + 1)) =
      some s.names.instances :=
  Fallible.mapM_eq_pure fun i _ => instanceName?_eq (isAscii_clusterName hs) (i + 1)

/-- **A checked scheme has all its names.** -/
theorem names_eq (hs : s.Sound) :
    Names.of s (s.places.map fun place => s.zoneAt place.2) = .ok s.names := by
  have hspec := hs.spec
  have hname : ∀ p : Part, p.isVersioned = false →
      s.namer.name? p.kind p.extra = some (s.nameOf p) := name?_eq hspec
  have hvpc : s.namer.name? .vpc none = _ := hname .vpc rfl
  have hgateway : s.namer.name? .internetGateway none = _ := hname .gateway rfl
  have hgroup : s.namer.name? .securityGroup none = _ := hname .securityGroup rfl
  have hingress : s.namer.name? .securityGroupRule (some "ingress") = _ := hname .ingress rfl
  have hegress : s.namer.name? .securityGroupRule (some "egress") = _ := hname .egress rfl
  have hrole : s.namer.name? .role none = _ := hname .role rfl
  have hpolicy : s.namer.name? .rolePolicyAttachment none = _ := hname .rolePolicy rfl
  have hsubnetGroup : s.namer.name? .subnetGroup none = _ := hname .subnetGroup rfl
  have hsecret : s.namer.name? .secret none = _ := hname .secret rfl
  have hcluster : s.parameterName .clusterParameterGroup = _ :=
    parameterName_eq hspec .clusterParameters rfl
  have hinstance : s.parameterName .parameterGroup = _ :=
    parameterName_eq hspec .instanceParameters rfl
  simp only [Names.of, clusterName?_eq hspec, subnets_eq hs, tiers_eq hs, instances_eq hspec,
    databaseSubnets?_eq hs, hvpc, hgateway, hgroup, hingress, hegress, hrole, hpolicy,
    hsubnetGroup, hsecret, hcluster, hinstance, Stop.whole_some, Fallible.ok_bind]
  rfl

/-- A checked scheme has a zone for each of its places. -/
theorem zones_eq (hs : s.Sound) :
    (s.plan.allocations.mapM fun a => s.zone a.zone) =
      .ok (s.places.map fun place => s.zoneAt place.2) := by
  rw [hs.plan, places, Fallible.mapM_eq_ok_iff, List.forall₂_map_left_iff,
    List.forall₂_map_right_iff, List.forall₂_same]
  rintro ⟨tier, zone⟩ hplace
  have hzone : zone < s.zones.zones.length := hs.zones ▸ (Plan.mem_places.1 hplace).2
  simp [Plan.allocationAt, Scheme.zone, zoneAt, hzone]

/-- **What is drawn of a checked scheme** is assembled with its names. -/
theorem draw_eq (hs : s.Sound) (password : Option String) :
    s.draw password = (s.assemble s.names password).mapError .fault := by
  unfold draw
  rw [zones_eq hs]
  simp only
  rw [names_eq hs, Fallible.ok_bind]

/-! ## Drafts -/

/-- The draft of a part. -/
def drawn (s : Scheme) (password : Option String) : Part → Draft
  | .vpc => s.vpc s.names
  | .gateway => s.gateway s.names
  | .subnet tier index => s.subnet s.names (s.row (tier, index))
  | .routeTable tier => s.routeTable s.names (s.tierRow tier)
  | .route tier => s.route s.names (s.tierRow tier)
  | .association tier index => s.association (s.row (tier, index))
  | .securityGroup => s.securityGroup s.names
  | .ingress => s.ingress s.names
  | .egress => s.egress s.names
  | .role => s.role s.names
  | .rolePolicy => s.rolePolicy s.names
  | .clusterParameters => s.clusterParameters s.names
  | .instanceParameters => s.instanceParameters s.names
  | .subnetGroup => s.subnetGroup s.names
  | .secret => Scheme.secret s.names (password.getD "")
  | .cluster => s.cluster s.names password

theorem drawn_id (s : Scheme) (password : Option String) (p : Part) :
    (s.drawn password p).id = p.id := by
  cases p <;> rfl

theorem drawn_kind (s : Scheme) (password : Option String) (p : Part) :
    (s.drawn password p).kind = p.kind := by
  cases p <;> rfl

/-- The name of a draft is that of its part; the cluster's may be one of
its own. -/
theorem drawn_name (s : Scheme) (password : Option String) (hp : p ≠ .cluster) :
    (s.drawn password p).name = s.nameOf p := by
  cases p <;> first | rfl | exact absurd rfl hp

/-- The extent of a blueprint. -/
def extent (s : Scheme) (password : Option String) : Extent where
  zones := s.spec.zoneCount
  tiers := s.spec.tiers
  routed := s.isRouted
  monitored := s.isMonitored
  hasSecret := password.isSome

/-- The parts of a blueprint before its cluster. -/
def ground (s : Scheme) (password : Option String) : List Part := (s.extent password).parts

theorem network_eq (s : Scheme) (password : Option String) :
    s.network s.names = (s.extent password).network.map (s.drawn password) := by
  have hfilter :
      ((Plan.layout s.spec.tiers).map s.tierRow).filter (fun row => s.isRouted row.tier) =
        ((Plan.layout s.spec.tiers).filter s.isRouted).map s.tierRow := by
    rw [List.filter_map]
    rfl
  have hsubnets : s.names.subnets = s.places.map s.row := rfl
  have htiers : s.names.tiers = (Plan.layout s.spec.tiers).map s.tierRow := rfl
  rw [network, hsubnets, htiers, hfilter, Extent.network]
  simp only [List.map_append, List.map_map]
  rfl

theorem access_eq (s : Scheme) (password : Option String) :
    s.access s.names = (s.extent password).access.map (s.drawn password) := by
  have hmonitored : (s.extent password).monitored = s.isMonitored := rfl
  rw [access, Extent.access, hmonitored]
  cases s.isMonitored <;> rfl

theorem foundation_eq (s : Scheme) (password : Option String) :
    s.foundation s.names password = (s.extent password).foundation.map (s.drawn password) := by
  cases password <;> rfl

/-- **The resources before the cluster are the drafts of the parts.** -/
theorem groundwork_eq (s : Scheme) (password : Option String) :
    s.groundwork s.names password = (s.ground password).map (s.drawn password) := by
  rw [groundwork, network_eq s password, access_eq s password, foundation_eq s password, ground,
    Extent.parts, List.map_append, List.map_append]

/-- The parts of a blueprint are among those there can be. -/
theorem ground_subset (hs : s.spec.Checked) (password : Option String) :
    (s.ground password).Sublist Extent.widest.parts :=
  Extent.parts_sublist (Extent.within_widest hs.zoneCount.2)

end Scheme

end ClusterBlueprint
