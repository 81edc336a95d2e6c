/-!
# Network — the tiers of subnets

Subnets come in three tiers, in a fixed order that the block layout
follows. The outer tier reaches the internet, the inner one does not, and
the database tier carries the cluster's subnet group.
-/

namespace ClusterBlueprint

/-- A tier of subnets. -/
inductive Tier where
  /-- Routed to the internet gateway. -/
  | outer
  /-- Without a route to the internet. -/
  | inner
  /-- Holds the cluster. -/
  | database
deriving DecidableEq

namespace Tier

/-- Every tier, in the order of the layout. -/
def all : List Tier := [.outer, .inner, .database]

/-- The place of the tier in the layout. -/
def ordinal : Tier → Nat
  | .outer => 0
  | .inner => 1
  | .database => 2

/-- The tier as claims and documents spell it. -/
def text : Tier → String
  | .outer => "public"
  | .inner => "private"
  | .database => "database"

/-- The tier that is spelled so. -/
def ofText? : String → Option Tier
  | "public" => some .outer
  | "private" => some .inner
  | "database" => some .database
  | _ => none

/-- The spelling of a tier is its own. -/
theorem ofText?_text (t : Tier) : ofText? t.text = some t := by cases t <;> rfl

/-- Every tier is in the list. -/
theorem mem_all (t : Tier) : t ∈ all := by cases t <;> decide

end Tier

end ClusterBlueprint
