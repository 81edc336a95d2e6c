import ClusterBlueprint.Blueprint.Scheme
import ClusterBlueprint.Graph.Assembly
/-!
# Blueprint — the network

The network comes first: the virtual network and its gateway, a subnet for
each allocation, a route table for each tier, a route to the gateway for
each tier that reaches it, and the associations of subnets with the route
tables of their tiers.
-/

namespace ClusterBlueprint

namespace Draft

/-- A reference to a resource by its name. -/
def ref (name : String) : Json := .object [("name", .text name)]

end Draft

namespace Scheme

/-- The region, as most resources carry it. -/
def region (s : Scheme) : Json := .text s.spec.region

/-- The tags of a resource, as its properties carry them. -/
def tags (s : Scheme) (kind : ResourceKind) (name : String) : Json :=
  .ofDict (s.namer.tagsOf kind name)

/-- The virtual network. -/
def vpc (s : Scheme) (n : Names) : Draft where
  id := "vpc"
  kind := .vpc
  name := n.vpc
  properties := .object
    [("cidrBlock", .text s.spec.vpc.text),
      ("enableDnsHostnames", .bool true),
      ("enableDnsSupport", .bool true),
      ("region", s.region),
      ("tags", s.tags .vpc n.vpc)]

/-- The gateway to the internet. -/
def gateway (s : Scheme) (n : Names) : Draft where
  id := "internet-gateway"
  kind := .internetGateway
  name := n.gateway
  properties := .object
    [("region", s.region),
      ("tags", s.tags .internetGateway n.gateway),
      ("vpcIdRef", Draft.ref n.vpc)]

/-- The tags of a subnet, which name its tier whatever the caller's tags
say. -/
def subnetTags (s : Scheme) (row : SubnetNames) : Json :=
  .ofDict ((s.namer.tagsOf .subnet row.subnet).insert "Tier" row.tier.text)

/-- The subnet of an allocation. -/
def subnet (s : Scheme) (n : Names) (row : SubnetNames) : Draft where
  id := "subnet-" ++ SubnetNames.place row.tier row.index
  kind := .subnet
  name := row.subnet
  properties := .object
    [("availabilityZone", .text row.zone),
      ("cidrBlock", .text row.block.text),
      ("mapPublicIpOnLaunch", .bool (s.isRouted row.tier)),
      ("region", s.region),
      ("tags", s.subnetTags row),
      ("vpcIdRef", Draft.ref n.vpc)]

/-- The route table of a tier. -/
def routeTable (s : Scheme) (n : Names) (row : TierNames) : Draft where
  id := "route-table-" ++ row.tier.text
  kind := .routeTable
  name := row.routeTable
  properties := .object
    [("region", s.region),
      ("tags", s.tags .routeTable row.routeTable),
      ("vpcIdRef", Draft.ref n.vpc)]

/-- The route of a tier to the internet. -/
def route (s : Scheme) (n : Names) (row : TierNames) : Draft where
  id := "route-" ++ row.tier.text ++ "-internet"
  kind := .route
  name := row.route
  properties := .object
    [("destinationCidrBlock", .text AddressBlock.all.text),
      ("gatewayIdRef", Draft.ref n.gateway),
      ("region", s.region),
      ("routeTableIdRef", Draft.ref row.routeTable)]

/-- The association of a subnet with the route table of its tier. -/
def association (s : Scheme) (row : SubnetNames) : Draft where
  id := "route-table-association-" ++ SubnetNames.place row.tier row.index
  kind := .routeTableAssociation
  name := row.association
  properties := .object
    [("region", s.region),
      ("routeTableIdRef", Draft.ref row.routeTable),
      ("subnetIdRef", Draft.ref row.subnet)]

/-- The resources of the network, in order. -/
def network (s : Scheme) (n : Names) : List Draft :=
  [s.vpc n, s.gateway n]
    ++ n.subnets.map (s.subnet n)
    ++ n.tiers.map (s.routeTable n)
    ++ (n.tiers.filter fun row => s.isRouted row.tier).map (s.route n)
    ++ n.subnets.map s.association

end Scheme

end ClusterBlueprint
