import ClusterBlueprint.Blueprint.Scheme
import ClusterBlueprint.Proofs.Naming.Fit
import ClusterBlueprint.Proofs.Network.Places
import Mathlib.Data.List.Nodup
/-!
# Blueprint — the parts

The resources that come before the members of the cluster are the same in
every blueprint up to a few switches: which tiers there are, in how many
zones, which of them reach the internet, and whether there are a monitoring
role and a secret. A `Part` is one such resource, and an `Extent` the
setting of the switches. The parts of an extent are a sublist of those of
every wider one (`parts_sublist`), and so all of them are in the parts of
the widest, a list of thirty-five. What has to be known of ids and of the
words in names is checked on that list.
-/

namespace ClusterBlueprint

/-- A resource of a blueprint, other than a member of the cluster. -/
inductive Part where
  | vpc
  | gateway
  | subnet (tier : Tier) (index : Nat)
  | routeTable (tier : Tier)
  | route (tier : Tier)
  | association (tier : Tier) (index : Nat)
  | securityGroup
  | ingress
  | egress
  | role
  | rolePolicy
  | clusterParameters
  | instanceParameters
  | subnetGroup
  | secret
  | cluster
deriving DecidableEq

namespace Part

/-- The id of the part in the graph. -/
def id : Part → String
  | vpc => "vpc"
  | gateway => "internet-gateway"
  | subnet t i => "subnet-" ++ SubnetNames.place t i
  | routeTable t => "route-table-" ++ t.text
  | route t => "route-" ++ t.text ++ "-internet"
  | association t i => "route-table-association-" ++ SubnetNames.place t i
  | securityGroup => "security-group"
  | ingress => "security-group-ingress"
  | egress => "security-group-egress"
  | role => "monitoring-role"
  | rolePolicy => "monitoring-policy"
  | clusterParameters => "cluster-parameter-group"
  | instanceParameters => "parameter-group"
  | subnetGroup => "subnet-group"
  | secret => "master-password"
  | cluster => "cluster"

/-- The kind of the part. -/
def kind : Part → ResourceKind
  | vpc => .vpc
  | gateway => .internetGateway
  | subnet _ _ => .subnet
  | routeTable _ => .routeTable
  | route _ => .route
  | association _ _ => .routeTableAssociation
  | securityGroup => .securityGroup
  | ingress | egress => .securityGroupRule
  | role => .role
  | rolePolicy => .rolePolicyAttachment
  | clusterParameters => .clusterParameterGroup
  | instanceParameters => .parameterGroup
  | subnetGroup => .subnetGroup
  | secret => .secret
  | cluster => .cluster

/-- What tells parts of a kind apart in their names. -/
def extra : Part → Option String
  | subnet t i | association t i => some (SubnetNames.place t i)
  | routeTable t => some t.text
  | route t => some (t.text ++ "-internet")
  | ingress => some "ingress"
  | egress => some "egress"
  | _ => none

/-- The part of a name between the claim's name and the ending. -/
def stem (p : Part) : List Char :=
  p.kind.token.toList ++ (match p.extra with
    | some part => '-' :: part.toList
    | none => [])

/-- A part that needs nothing to be told apart is the only one of its
kind. -/
theorem eq_of_kind {p q : Part} (hp : p.extra = none) (h : q.kind = p.kind) : q = p := by
  cases p with
  | subnet | routeTable | route | association | ingress | egress => cases hp
  | _ => cases q <;> first | rfl | cases h

/-- How far along in a blueprint the part stands. -/
def layer : Part → Nat
  | vpc => 0
  | gateway => 1
  | subnet _ _ => 2
  | routeTable _ => 3
  | route _ => 4
  | association _ _ => 5
  | securityGroup => 6
  | ingress | egress => 7
  | role => 8
  | rolePolicy => 9
  | clusterParameters | instanceParameters => 10
  | subnetGroup => 11
  | secret => 12
  | cluster => 13

/-- Whether the part is named by version and content. -/
def isVersioned (p : Part) : Bool := p.kind.namingPolicy = .versionedHash

end Part

/-- Which parts a blueprint has before the cluster. -/
structure Extent where
  zones : Nat
  tiers : List Tier
  /-- The tiers that reach the internet. -/
  routed : Tier → Bool
  monitored : Bool
  hasSecret : Bool

namespace Extent

open ClusterBlueprint.Part

/-- The parts of the network. -/
def network (e : Extent) : List Part :=
  [vpc, gateway]
    ++ (Plan.places e.zones e.tiers).map (fun place => subnet place.1 place.2)
    ++ (Plan.layout e.tiers).map routeTable
    ++ ((Plan.layout e.tiers).filter e.routed).map route
    ++ (Plan.places e.zones e.tiers).map fun place => association place.1 place.2

/-- The parts of access. -/
def access (e : Extent) : List Part :=
  [securityGroup, ingress, egress] ++ if e.monitored then [role, rolePolicy] else []

/-- The parts that the cluster is built on. -/
def foundation (e : Extent) : List Part :=
  [clusterParameters, instanceParameters, subnetGroup] ++ if e.hasSecret then [secret] else []

/-- The parts in order. -/
def parts (e : Extent) : List Part := e.network ++ e.access ++ e.foundation

/-- Whether an extent asks for a part. -/
def Has (e : Extent) : Part → Prop
  | subnet t i | association t i => t ∈ e.tiers ∧ i < e.zones
  | routeTable t => t ∈ e.tiers
  | route t => t ∈ e.tiers ∧ e.routed t = true
  | role | rolePolicy => e.monitored = true
  | secret => e.hasSecret = true
  | cluster => False
  | _ => True

/-- The parts are those that the extent asks for. -/
theorem mem_parts {e : Extent} {p : Part} : p ∈ e.parts ↔ e.Has p := by
  unfold parts network access foundation
  cases hm : e.monitored <;> cases hs : e.hasSecret <;> cases p <;>
    simp [Has, Plan.mem_places, Plan.mem_layout, hm, hs]

/-- One extent asks for nothing that the other does not have. -/
structure Within (e e' : Extent) : Prop where
  zones : e.zones ≤ e'.zones
  tiers : e.tiers ⊆ e'.tiers
  routed : ∀ t, e.routed t = true → e'.routed t = true
  monitored : e.monitored = true → e'.monitored = true
  hasSecret : e.hasSecret = true → e'.hasSecret = true

theorem sublist_ite {α : Type} {b b' : Bool} (h : b = true → b' = true) (xs : List α) :
    (if b then xs else []).Sublist (if b' then xs else []) := by
  cases b
  · exact List.nil_sublist _
  · rw [h rfl]

theorem network_sublist {e e' : Extent} (h : e.Within e') : e.network.Sublist e'.network := by
  have hplaces := Plan.places_sublist h.zones h.tiers
  have hlayout := Plan.layout_sublist h.tiers
  have hrouted : ((Plan.layout e.tiers).filter e.routed).Sublist
      ((Plan.layout e'.tiers).filter e'.routed) :=
    (List.monotone_filter_right _ h.routed).trans (hlayout.filter _)
  exact ((((List.Sublist.refl _).append (hplaces.map _)).append (hlayout.map _)).append
    (hrouted.map _)).append (hplaces.map _)

/-- **A wider extent keeps the parts** in their order. -/
theorem parts_sublist {e e' : Extent} (h : e.Within e') : e.parts.Sublist e'.parts :=
  ((network_sublist h).append ((List.Sublist.refl _).append (sublist_ite h.monitored _))).append
    ((List.Sublist.refl _).append (sublist_ite h.hasSecret _))

/-- Everything there can be. -/
def widest : Extent := ⟨3, Tier.all, fun _ => true, true, true⟩

theorem within_widest {e : Extent} (h : e.zones ≤ 3) : e.Within widest :=
  ⟨h, fun t _ => Tier.mem_all t, fun _ _ => rfl, fun _ => rfl, fun _ => rfl⟩

/-- The parts that have a name, the cluster's own included. -/
def named : List Part := cluster :: widest.parts

end Extent

namespace Part

open Extent Naming

variable {p q : Part}

/-- Parts stand in the order of their layers. -/
theorem pairwise_layer : widest.parts.Pairwise fun p q => p.layer ≤ q.layer := by decide +kernel

/-! ## Ids and stems -/

/-- **Ids are distinct**, also from those that members of the cluster have. -/
theorem nodup_ids :
    (named.map Part.id ++ (List.range 15).map fun i => "instance-" ++ toString (i + 1)).Nodup := by
  decide +kernel

theorem nodup_named : named.Nodup :=
  List.Nodup.of_map Part.id (List.nodup_append.1 nodup_ids).1

/-- **No stem ends another one.** -/
theorem eq_of_stem_suffix :
    ∀ p ∈ named, ∀ q ∈ named, ('-' :: p.stem) <:+ ('-' :: q.stem) → p = q := by
  decide +kernel

/-- Stems are short enough for every suffix to leave room for digits, and
have the characters of labels. -/
theorem stem_bounds :
    ∀ p ∈ named, p.stem.length ≤ 23 ∧ p.stem.all Rules.isLabelChar = true := by
  decide +kernel

theorem isLabelChar_of_mem_stem (hp : p ∈ named) {c : Char} (hc : c ∈ p.stem) :
    Rules.isLabelChar c = true :=
  List.all_eq_true.1 (stem_bounds p hp).2 c hc

theorem isAscii_stem (hp : p ∈ named) : IsAscii p.stem :=
  fun _ hc => utf8Size_of_isLabelChar (isLabelChar_of_mem_stem hp hc)

/-- **Behind endings of one length no two stems are the same text.** -/
theorem eq_of_append_stem {cs ds es fs : List Char} (hp : p ∈ named) (hq : q ∈ named)
    (hlen : es.length = fs.length)
    (h : cs ++ '-' :: (p.stem ++ '-' :: es) = ds ++ '-' :: (q.stem ++ '-' :: fs)) : p = q := by
  simp only [← List.cons_append, ← List.append_assoc] at h
  -- endings of one length are cut off together, and both stems end what is left
  obtain ⟨hfront, -⟩ := List.append_inj' h (by simp [hlen])
  have hsuf : ('-' :: p.stem) <:+ ds ++ '-' :: q.stem := hfront ▸ List.suffix_append _ _
  rcases List.suffix_or_suffix_of_suffix hsuf (List.suffix_append _ _) with hsuf | hsuf
  · exact eq_of_stem_suffix p hp q hq hsuf
  · exact (eq_of_stem_suffix q hq p hp hsuf).symm

/-- The last word of a stem is none that stands before the digits of a
versioned name. -/
theorem last_word : ∀ p ∈ named, p.isVersioned = false →
    (words p.stem).getLast? ≠ some "params".toList ∧
      (words p.stem).getLast?.map (List.take 2) ≠ some "pg".toList := by
  decide +kernel

/-- Only the cluster's stem speaks of a cluster, the parameters' apart. -/
theorem cluster_not_mem_words : ∀ p ∈ widest.parts, p.isVersioned = false →
    "cluster".toList ∉ words p.stem := by
  decide +kernel

/-- The first of the words that stand there. -/
theorem last_word_of_isVersioned : ∀ p ∈ named, p.isVersioned = true →
    (words p.stem).getLast? = some "params".toList := by
  decide +kernel

end Part

end ClusterBlueprint
