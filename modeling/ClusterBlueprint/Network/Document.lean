import ClusterBlueprint.Claim.Document
import ClusterBlueprint.Network.Region
/-!
# Network — the documents of plans and zones

A plan is kept as a document and read back as it stands: nothing relates
the blocks of a document to the network block, so a plan that was read may
be neither disjoint nor contained.
-/

namespace ClusterBlueprint

namespace Allocation

/-- An allocation as a document. -/
def toJson (a : Allocation) : Json :=
  .object [("cidr", a.block.toJson), ("tier", a.tier.toJson), ("zoneIndex", .nat a.zone)]

/-- The allocation of a document. -/
def ofJson? (doc : Json) : Option Allocation := do
  let fields ← doc.record? ["tier", "zoneIndex", "cidr"]
  pure
    { tier := ← Json.required? Tier.ofJson? fields "tier"
      zone := ← Json.required? Json.count? fields "zoneIndex"
      block := ← Json.required? AddressBlock.ofJson? fields "cidr" }

end Allocation

namespace Plan

/-- A plan as a document. -/
def toJson (p : Plan) : Json :=
  .object [("allocations", .array (p.allocations.map Allocation.toJson)), ("vpcCidr", p.vpc.toJson)]

/-- The plan of a document. -/
def ofJson? (doc : Json) : Option Plan := do
  let fields ← doc.record? ["vpcCidr", "allocations"]
  pure
    { vpc := ← Json.required? AddressBlock.ofJson? fields "vpcCidr"
      allocations := ← Json.required? (Json.list? Allocation.ofJson?) fields "allocations" }

end Plan

namespace ZoneSet

/-- A set of zones as a document. -/
def toJson (z : ZoneSet) : Json :=
  .object [("region", .text z.region), ("zones", .texts z.zones)]

end ZoneSet

end ClusterBlueprint
