import ClusterBlueprint.Fault
/-!
# Network — regions and their availability zones

The supported regions and their zones are a table, so a claim resolves to
the same zones wherever and whenever it is read. The order of the zones
matters: the zone of index `i` in a plan is the `i`-th of its region.
-/

namespace ClusterBlueprint

/-- Zones of one region, in order. -/
structure ZoneSet where
  region : String
  zones : List String
deriving DecidableEq

namespace Region

/-- The supported regions in ascending order, with the letters of their
zones. -/
def table : List (String × List Char) :=
  [("af-south-1", ['a', 'b', 'c']),
    ("ap-southeast-2", ['a', 'b', 'c']),
    ("ca-central-1", ['a', 'b', 'd']),
    ("eu-central-1", ['a', 'b', 'c']),
    ("eu-central-2", ['a', 'b']),
    ("eu-west-2", ['a', 'b', 'c']),
    ("us-east-1", ['a', 'b', 'c', 'd', 'e', 'f']),
    ("us-east-2", ['a', 'b', 'c']),
    ("us-west-2", ['a', 'b', 'c', 'd'])]

/-- The letters of a region's zones. -/
def letters? (region : String) : Option (List Char) :=
  (table.find? fun row => row.1 = region).map Prod.snd

/-- Whether the region is in the table. -/
def isSupported (region : String) : Bool := (letters? region).isSome

/-- All zones of a region. -/
def resolve (region : String) : Except Fault ZoneSet :=
  match letters? region with
  | some letters => .ok ⟨region, letters.map region.push⟩
  | none => .error (.unsupportedRegion region)

end Region

namespace ZoneSet

/-- The first `n` zones, if there are so many. -/
def select (z : ZoneSet) (n : Nat) : Except Fault ZoneSet :=
  if n > z.zones.length then
    .error (.field "azCount" (.zonesMissing z.region z.zones.length n))
  else .ok ⟨z.region, z.zones.take n⟩

/-- The zones, separated by commas. -/
def text (z : ZoneSet) : String := ",".intercalate z.zones

/-- A selection has as many zones as were asked for. -/
theorem length_of_select {z s : ZoneSet} {n : Nat} (h : z.select n = .ok s) :
    s.zones.length = n := by
  unfold select at h
  split at h
  · simp at h
  · next hn => cases h; simp; omega

end ZoneSet

end ClusterBlueprint
