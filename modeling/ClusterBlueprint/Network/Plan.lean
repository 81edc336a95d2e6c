import ClusterBlueprint.Fault
/-!
# Network — the plan of subnet blocks

Every subnet has a block of length 24. A tier owns three consecutive
blocks of the network's block, one for each zone there may be, whether all
are used or not: the block of a tier and a zone depends on nothing else, so
adding a zone or a tier moves no subnet. A network block that is too small
for the last block of the layout is refused before anything is planned.
-/

namespace ClusterBlueprint

/-- The length of every subnet block. -/
def subnetLength : Nat := 24

/-- Blocks reserved for a tier: as many as there can be zones. -/
def blocksPerTier : Nat := 3

namespace Tier

/-- The number of a tier's first block. -/
def offset (t : Tier) : Nat := t.ordinal * blocksPerTier

end Tier

/-- The block of one tier in one zone. -/
structure Allocation where
  tier : Tier
  zone : Nat
  block : AddressBlock
deriving DecidableEq

/-- A network block and the blocks given out of it. -/
structure Plan where
  vpc : AddressBlock
  allocations : List Allocation
deriving DecidableEq

namespace Plan

/-- How many blocks a layout needs: one more than the last number used. -/
def required (zones : Nat) (tiers : List Tier) : Nat :=
  (tiers.map fun t => t.offset + zones).foldl max 0

/-- Refuses a block that has no room for the layout. -/
def checkRoom (vpc : AddressBlock) (zones : Nat) (tiers : List Tier) : Except Fault Unit :=
  let available := vpc.subnetCount subnetLength
  if required zones tiers > available then
    .error (.blockExhausted vpc (required zones tiers) available)
  else .ok ()

/-- The block of one tier in one zone. -/
def allocate1 (vpc : AddressBlock) (tier : Tier) (zone : Nat) : Except Fault Allocation :=
  let index := tier.offset + zone
  match vpc.subnet? subnetLength index with
  | some block => .ok ⟨tier, zone, block⟩
  | none => .error (.blockExhausted vpc (index + 1) (vpc.subnetCount subnetLength))

/-- The tiers of a layout, each once and in order. -/
def layout (tiers : List Tier) : List Tier := Tier.all.filter (· ∈ tiers)

/-- A block for each tier asked for in each of the first `zones` zones, by
tier and then by zone. -/
def allocate (vpc : AddressBlock) (zones : Nat) (tiers : List Tier) : Except Fault Plan := do
  checkRoom vpc zones tiers
  let places := (layout tiers).flatMap fun t => (List.range zones).map fun z => (t, z)
  let allocations ← places.mapM fun (t, z) => allocate1 vpc t z
  pure ⟨vpc, allocations⟩

/-- The block of one tier in one zone. -/
def get? (p : Plan) (tier : Tier) (zone : Nat) : Option AddressBlock :=
  (p.allocations.find? fun a => a.tier = tier ∧ a.zone = zone).map Allocation.block

/-- The blocks of one tier. -/
def tierBlocks (p : Plan) (tier : Tier) : List AddressBlock :=
  (p.allocations.filter fun a => a.tier = tier).map Allocation.block

/-- One entry for each run of equal neighbours. -/
def dropRepeats {α : Type} [DecidableEq α] : List α → List α
  | [] => []
  | [x] => [x]
  | x :: y :: rest => if x = y then dropRepeats (y :: rest) else x :: dropRepeats (y :: rest)

/-- The tiers of the plan. -/
def tiers (p : Plan) : List Tier := dropRepeats (p.allocations.map Allocation.tier)

/-- Whether no block shares an address with a later one. -/
def isDisjoint (p : Plan) : Bool :=
  decide (p.allocations.Pairwise fun a b => a.block.overlaps b.block = false)

/-- Whether the network block contains every block. -/
def isContained (p : Plan) : Bool := p.allocations.all fun a => p.vpc.contains a.block

end Plan

end ClusterBlueprint
