import ClusterBlueprint.Network.Plan
import ClusterBlueprint.Network.Region
import ClusterBlueprint.Proofs.Fallible
import Mathlib.Data.List.Flatten
/-!
# Network — the places of a plan

A plan has a block for each place, a tier and the index of a zone. A network
block that passes `Plan.checkRoom` has a block for every place
(`allocate_eq_ok`), and which block that is depends on the place alone
(`Plan.blockAt`). The places of a layout are among those of any layout with
at least the zones and the tiers, in the same order (`places_sublist`), so
a plan that grows moves nothing.
-/

namespace ClusterBlueprint

namespace Plan

variable {vpc : AddressBlock} {zones zones' : Nat} {tiers tiers' : List Tier} {t : Tier} {z : Nat}

/-! ## Places -/

/-- The places of a layout, by tier and then by zone. -/
def places (zones : Nat) (tiers : List Tier) : List (Tier × Nat) :=
  (layout tiers).flatMap fun t => (List.range zones).map fun z => (t, z)

theorem mem_layout : t ∈ layout tiers ↔ t ∈ tiers := by
  simp [layout, Tier.mem_all]

theorem nodup_layout (tiers : List Tier) : (layout tiers).Nodup :=
  List.Nodup.sublist List.filter_sublist (by decide)

theorem mem_places : (t, z) ∈ places zones tiers ↔ t ∈ tiers ∧ z < zones := by
  simp [places, mem_layout]

/-- A layout with more tiers has the tiers of the first in their order. -/
theorem layout_sublist (h : tiers ⊆ tiers') : (layout tiers).Sublist (layout tiers') := by
  have hfilter : layout tiers = (layout tiers').filter (· ∈ tiers) := by
    rw [layout, layout, List.filter_filter]
    refine List.filter_congr fun t _ => ?_
    by_cases ht : t ∈ tiers
    · simp [ht, h ht]
    · simp [ht]
  rw [hfilter]
  exact List.filter_sublist

/-- The first zones stay where they are when there are more. -/
theorem prefix_range (h : zones ≤ zones') : List.range zones <+: List.range zones' := by
  obtain ⟨k, rfl⟩ := Nat.exists_eq_add_of_le h
  rw [List.range_add]
  exact List.prefix_append _ _

/-- **A layout that grows keeps its places**, and their order. -/
theorem places_sublist (hz : zones ≤ zones') (ht : tiers ⊆ tiers') :
    (places zones tiers).Sublist (places zones' tiers') := by
  have hrow : ∀ t ∈ layout tiers, ((List.range zones).map fun z => (t, z)).Sublist
      ((List.range zones').map fun z => (t, z)) := fun t _ => (prefix_range hz).sublist.map _
  exact (List.Sublist.flatMap_right _ hrow).trans ((layout_sublist ht).flatMap _)

/-- The places of one tier. -/
theorem filter_places (h : t ∈ tiers) :
    (places zones tiers).filter (fun place => place.1 = t) =
      (List.range zones).map fun z => (t, z) := by
  have hrow : ∀ t', ((List.range zones).map fun z => (t', z)).filter (fun place => place.1 = t) =
      if t' = t then (List.range zones).map fun z => (t, z) else [] := by
    intro t'
    rw [List.filter_map]
    split
    · next heq =>
      rw [heq]
      exact congrArg _ (List.filter_eq_self.2 fun z _ => decide_eq_true rfl)
    · next hne =>
      rw [List.filter_eq_nil_iff.2 fun z _ => by simpa using hne, List.map_nil]
  rw [places, List.filter_flatMap]
  simp only [hrow]
  have hmem : t ∈ layout tiers := mem_layout.2 h
  have hnodup := nodup_layout tiers
  generalize layout tiers = ts at hmem hnodup
  induction ts with
  | nil => cases hmem
  | cons t' ts ih =>
    obtain ⟨hnot, hts⟩ := List.nodup_cons.1 hnodup
    rw [List.flatMap_cons]
    rcases List.mem_cons.1 hmem with rfl | hmem
    · have hrest : ∀ u ∈ ts, (if u = t then (List.range zones).map fun z => (t, z) else []) = [] :=
        fun u hu => if_neg fun he : u = t => hnot (he ▸ hu)
      rw [if_pos rfl, List.flatMap_eq_nil_iff.2 hrest, List.append_nil]
    · have hne : t' ≠ t := fun he => hnot (he.symm ▸ hmem)
      rw [if_neg hne, List.nil_append, ih hmem hts]

/-! ## Blocks -/

/-- The block of a place. -/
def blockAt (vpc : AddressBlock) (tier : Tier) (zone : Nat) : AddressBlock :=
  (vpc.subnet? subnetLength (tier.offset + zone)).getD AddressBlock.all

/-- The allocation of a place. -/
def allocationAt (vpc : AddressBlock) (place : Tier × Nat) : Allocation :=
  ⟨place.1, place.2, blockAt vpc place.1 place.2⟩

/-- The blocks required are within a bound when those of every tier are. -/
theorem required_le_iff {bound : Nat} :
    required zones tiers ≤ bound ↔ ∀ t ∈ tiers, t.offset + zones ≤ bound := by
  -- a maximum is within a bound when its members and what it started with are
  have hfold : ∀ (ns : List Nat) (acc : Nat),
      ns.foldl max acc ≤ bound ↔ acc ≤ bound ∧ ∀ n ∈ ns, n ≤ bound := by
    intro ns
    induction ns with
    | nil => simp
    | cons n ns ih =>
      intro acc
      rw [List.foldl_cons, ih, Nat.max_le, List.forall_mem_cons, and_assoc]
  rw [required, hfold]
  simp

/-- There is room for a layout when there is for each of its tiers. -/
theorem checkRoom_eq_ok_iff :
    checkRoom vpc zones tiers = .ok () ↔
      ∀ t ∈ tiers, t.offset + zones ≤ vpc.subnetCount subnetLength := by
  rw [← required_le_iff, ← Nat.not_lt]
  simp only [checkRoom]
  split
  · next h => exact iff_of_false nofun (not_not.2 h)
  · next h => exact iff_of_true rfl h

/-- Where there is room for the layout, its places are among the blocks. -/
theorem index_lt_subnetCount (h : checkRoom vpc zones tiers = .ok ()) (ht : t ∈ tiers)
    (hz : z < zones) : t.offset + z < vpc.subnetCount subnetLength := by
  have hroom : t.offset + zones ≤ vpc.subnetCount subnetLength := checkRoom_eq_ok_iff.1 h t ht
  omega

/-- So each of them has a block. -/
theorem allocate1_eq_ok (h : checkRoom vpc zones tiers = .ok ()) (ht : t ∈ tiers)
    (hz : z < zones) : allocate1 vpc t z = .ok (allocationAt vpc (t, z)) := by
  have hlt := index_lt_subnetCount h ht hz
  simp [allocate1, allocationAt, blockAt, AddressBlock.subnet?, hlt]

/-- **Where there is room, the plan has the block of every place.** -/
theorem allocate_eq_ok (h : checkRoom vpc zones tiers = .ok ()) :
    allocate vpc zones tiers = .ok ⟨vpc, (places zones tiers).map (allocationAt vpc)⟩ := by
  have hall : (places zones tiers).mapM (fun p => allocate1 vpc p.1 p.2) =
      pure ((places zones tiers).map (allocationAt vpc)) := by
    refine Fallible.mapM_eq_pure fun p hp => ?_
    obtain ⟨ht, hz⟩ := mem_places.1 hp
    exact allocate1_eq_ok h ht hz
  unfold allocate
  rw [h, Fallible.ok_bind]
  exact Fallible.bind_eq_ok.2 ⟨_, hall, rfl⟩

/-- **A plan finds the block of a place.** -/
theorem get?_eq (h : (t, z) ∈ places zones tiers) :
    get? ⟨vpc, (places zones tiers).map (allocationAt vpc)⟩ t z = some (blockAt vpc t z) := by
  have hsome : ((places zones tiers).find? fun place => place.1 = t ∧ place.2 = z).isSome :=
    List.find?_isSome.2 ⟨(t, z), h, by simp⟩
  obtain ⟨place, hplace⟩ := Option.isSome_iff_exists.1 hsome
  obtain ⟨rfl, rfl⟩ : place.1 = t ∧ place.2 = z := by simpa using List.find?_some hplace
  have hpredicate : (fun a : Allocation => decide (a.tier = place.1 ∧ a.zone = place.2)) ∘
      allocationAt vpc = fun other => decide (other.1 = place.1 ∧ other.2 = place.2) := rfl
  rw [get?, List.find?_map, hpredicate, hplace]
  rfl

/-- **The blocks of a tier are those of its zones.** -/
theorem tierBlocks_eq (h : t ∈ tiers) :
    tierBlocks ⟨vpc, (places zones tiers).map (allocationAt vpc)⟩ t =
      (List.range zones).map (blockAt vpc t) := by
  have hpredicate : (fun a : Allocation => decide (a.tier = t)) ∘ allocationAt vpc =
      fun place => decide (place.1 = t) := rfl
  rw [tierBlocks, List.filter_map, hpredicate, filter_places h, List.map_map, List.map_map]
  rfl

/-! ## The tiers of a plan -/

/-- A run of one item counts once. -/
theorem dropRepeats_replicate_append {α : Type} [DecidableEq α] {x : α} {rest : List α} (n : Nat)
    (h : x ∉ rest) : dropRepeats (List.replicate (n + 1) x ++ rest) = x :: dropRepeats rest := by
  induction n with
  | zero =>
    cases rest with
    | nil => rfl
    | cons y rest =>
      have hne : x ≠ y := fun he => h (by simp [he])
      simp [dropRepeats, hne]
  | succ n ih =>
    rw [← ih, List.replicate_succ, List.replicate_succ]
    simp [dropRepeats]

/-- **The tiers of a plan are those of the layout.** -/
theorem tiers_eq (hz : 0 < zones) :
    Plan.tiers ⟨vpc, (places zones tiers).map (allocationAt vpc)⟩ = layout tiers := by
  have hmap : ((places zones tiers).map (allocationAt vpc)).map Allocation.tier =
      (layout tiers).flatMap fun t => List.replicate zones t := by
    simp only [places, List.map_flatMap, List.map_map]
    refine congrArg (fun f => (layout tiers).flatMap f) (funext fun t => ?_)
    show (List.range zones).map (fun _ => t) = List.replicate zones t
    rw [List.map_const', List.length_range]
  obtain ⟨n, rfl⟩ : ∃ n, zones = n + 1 := ⟨zones - 1, by omega⟩
  unfold Plan.tiers
  rw [hmap]
  have hnodup := nodup_layout tiers
  generalize layout tiers = ts at hnodup
  induction ts with
  | nil => rfl
  | cons t ts ih =>
    obtain ⟨ht, hts⟩ := List.nodup_cons.1 hnodup
    rw [List.flatMap_cons, dropRepeats_replicate_append n (by simpa using ht), ih hts]

end Plan

end ClusterBlueprint
