import ClusterBlueprint.Naming
import ClusterBlueprint.Network.Region
/-!
# Blueprint — the scheme and its names

A blueprint is drawn from a scheme: a spec, the settings, the zones of the
region and the plan of blocks. Before anything is drawn, every name that
the blueprint uses is worked out (`Names.of`), and what is drawn afterwards
only looks names up. The subnet group has a list of its own, made from the
number of blocks that the plan gives the database.
-/

namespace ClusterBlueprint

/-- What a blueprint is drawn from. -/
structure Scheme where
  spec : Spec
  config : Config
  zones : ZoneSet
  plan : Plan

/-- A subnet: its allocation, its zone and the names around it. -/
structure SubnetNames where
  tier : Tier
  index : Nat
  block : AddressBlock
  zone : String
  subnet : String
  association : String
  routeTable : String
deriving DecidableEq

namespace SubnetNames

/-- The part of ids and names that tells subnets apart. -/
def place (tier : Tier) (index : Nat) : String := tier.text ++ "-" ++ toString index

end SubnetNames

/-- A tier: the names of its route table and of its route. -/
structure TierNames where
  tier : Tier
  routeTable : String
  route : String
deriving DecidableEq

/-- Every name of a blueprint. -/
structure Names where
  vpc : String
  gateway : String
  subnets : List SubnetNames
  tiers : List TierNames
  securityGroup : String
  ingress : String
  egress : String
  role : String
  rolePolicy : String
  clusterParameters : String
  instanceParameters : String
  subnetGroup : String
  /-- The subnets that the subnet group lists. -/
  databaseSubnets : List String
  secret : String
  cluster : String
  /-- The members of the cluster in order. -/
  instances : List String
deriving DecidableEq

namespace Scheme

/-- The namer of the scheme. -/
def namer (s : Scheme) : Namer := Namer.of s.spec s.config

/-- Whether subnets of a tier reach the internet: outer ones always,
database ones when the instances are to be reached from outside. -/
def isRouted (s : Scheme) : Tier → Bool
  | .outer => true
  | .inner => false
  | .database => s.spec.publiclyAccessible

/-- The parameters of both parameter groups. -/
def parameters (s : Scheme) : Json :=
  .array
    [.object
      [("applyMethod", .text "pending-reboot"),
        ("name", .text "shared_preload_libraries"),
        ("value", .text s.config.preloadLibraries)]]

/-- What the name of a parameter group is a digest of. The environment is
part of it, so that environments with equal parameters have groups of
their own. -/
def parameterContent (s : Scheme) (kind : ResourceKind) : Json :=
  .object
    [("environment", .text s.spec.environmentSuffix),
      ("family", .text s.spec.parameterFamily),
      ("kind", .text kind.manifestName),
      ("parameters", s.parameters)]

/-- The version in the name of a parameter group. -/
def parameterVersion (s : Scheme) : String := "pg" ++ toString s.spec.majorVersion

/-- The name of a parameter group. -/
def parameterName (s : Scheme) (kind : ResourceKind) : Except Stop String :=
  s.namer.versionedName kind s.parameterVersion (s.parameterContent kind)

/-- The name of the cluster: the one asked for, or one by environment. -/
def clusterName? (s : Scheme) : Option String :=
  match s.spec.clusterName with
  | some name => some name
  | none => s.namer.name? .cluster none

/-- The names of the subnets that the cluster lives in: one for each block
that the plan has for the database, counted from zero. -/
def databaseSubnets? (s : Scheme) : Option (List String) :=
  (List.range (s.plan.tierBlocks .database).length).mapM fun index =>
    s.namer.name? .subnet (some (SubnetNames.place .database index))

/-- The zone of an index. -/
def zone (s : Scheme) (index : Nat) : Except Fault String :=
  match s.zones.zones[index]? with
  | some zone => .ok zone
  | none => .error (.graph (.missingZone index))

end Scheme

namespace SubnetNames

/-- The names around the subnet of an allocation. -/
def of? (s : Scheme) (zone : String) (a : Allocation) : Option SubnetNames := do
  let place := place a.tier a.zone
  pure
    { tier := a.tier
      index := a.zone
      block := a.block
      zone := zone
      subnet := ← s.namer.name? .subnet (some place)
      association := ← s.namer.name? .routeTableAssociation (some place)
      routeTable := ← s.namer.name? .routeTable (some a.tier.text) }

end SubnetNames

namespace TierNames

/-- The names of a tier. -/
def of? (s : Scheme) (tier : Tier) : Option TierNames := do
  pure
    { tier := tier
      routeTable := ← s.namer.name? .routeTable (some tier.text)
      route := ← s.namer.name? .route (some (tier.text ++ "-internet")) }

end TierNames

namespace Names

/-- Every name of the blueprint of a scheme, given the zone of each
allocation. -/
def of (s : Scheme) (zones : List String) : Except Stop Names := do
  let name := fun kind extra => Stop.whole (s.namer.name? kind extra)
  let cluster ← Stop.whole s.clusterName?
  pure
    { vpc := ← name .vpc none
      gateway := ← name .internetGateway none
      subnets := ← Stop.whole
        ((zones.zip s.plan.allocations).mapM fun (zone, a) => SubnetNames.of? s zone a)
      tiers := ← Stop.whole (s.plan.tiers.mapM (TierNames.of? s))
      securityGroup := ← name .securityGroup none
      ingress := ← name .securityGroupRule (some "ingress")
      egress := ← name .securityGroupRule (some "egress")
      role := ← name .role none
      rolePolicy := ← name .rolePolicyAttachment none
      clusterParameters := ← s.parameterName .clusterParameterGroup
      instanceParameters := ← s.parameterName .parameterGroup
      subnetGroup := ← name .subnetGroup none
      databaseSubnets := ← Stop.whole s.databaseSubnets?
      secret := ← name .secret none
      cluster := cluster
      instances := ← Stop.whole
        ((List.range s.spec.instanceCount).mapM fun i => Naming.instanceName? cluster (i + 1)) }

end Names

end ClusterBlueprint
