import ClusterBlueprint.Proofs.Network.Addresses
import ClusterBlueprint.Proofs.Network.Places
/-!
# Network — what a plan gives out

A layout asks for some tiers in some zones. Whether the network block has
room for it is settled before anything is given out (`allocate_eq_error_iff`),
and it is settled right: the layout is refused exactly when the last block
of some tier it asks for is not one of the network block's
(`exists_checkRoom_eq_error_iff`). Otherwise each place gets the block of
its own number, which no other place has, so the blocks share no address
(`laysOut`). The number is read off the place alone, and so a plan is one of
the set of its tiers, and a smaller one has the blocks of the larger
(`allocate_exact`).
-/

namespace ClusterBlueprint

namespace Plan

variable {vpc : AddressBlock} {zones zones' : Nat} {tiers tiers' : List Tier} {t : Tier} {z : Nat}
variable {p : Plan} {fault : Fault}

/-! ## Whether there is room -/

/-- Nothing but the check of the room refuses a layout. -/
theorem allocate_eq_error_iff :
    allocate vpc zones tiers = .error fault ↔ checkRoom vpc zones tiers = .error fault := by
  cases hroom : checkRoom vpc zones tiers with
  | error cause => simp [allocate, hroom]
  | ok _ => simp [allocate_eq_ok hroom]

/-- **A layout is refused when some tier has no room**: the last of its
blocks is not one of the network block's. -/
theorem exists_checkRoom_eq_error_iff (h : 0 < zones) :
    (∃ fault, checkRoom vpc zones tiers = .error fault) ↔
      ∃ t ∈ tiers, ¬ 3 * t.ordinal + zones - 1 < vpc.size / 256 := by
  have hrefused : (∃ fault, checkRoom vpc zones tiers = .error fault) ↔
      ¬ checkRoom vpc zones tiers = .ok () := by
    cases checkRoom vpc zones tiers <;> simp
  rw [hrefused, checkRoom_eq_ok_iff, vpc.subnetCount_eq]
  simp only [not_forall, exists_prop, Tier.offset, blocksPerTier]
  refine exists_congr fun t => and_congr_right fun _ => ?_
  omega

/-- Room depends on the set of the tiers. -/
theorem required_congr (h : ∀ t, t ∈ tiers ↔ t ∈ tiers') :
    required zones tiers = required zones tiers' := by
  have hbounds : ∀ bound, required zones tiers ≤ bound ↔ required zones tiers' ≤ bound := by
    intro bound
    simp only [required_le_iff, h]
  exact Nat.le_antisymm ((hbounds _).2 (Nat.le_refl _)) ((hbounds _).1 (Nat.le_refl _))

/-- A smaller layout finds room where the larger one does. -/
theorem checkRoom_mono (hroom : checkRoom vpc zones tiers = .ok ()) (hz : zones' ≤ zones)
    (ht : tiers' ⊆ tiers) : checkRoom vpc zones' tiers' = .ok () := by
  refine checkRoom_eq_ok_iff.2 fun t hmem => ?_
  have hlast := checkRoom_eq_ok_iff.1 hroom t (ht hmem)
  omega

/-! ## What is given out -/

/-- Whether one place comes before another: by tier, then by zone. -/
def Precedes (a b : Tier × Nat) : Prop :=
  a.1.ordinal < b.1.ordinal ∨ a.1 = b.1 ∧ a.2 < b.2

/-- The tiers of a layout ascend. -/
theorem pairwise_layout (tiers : List Tier) :
    (layout tiers).Pairwise fun t u => t.ordinal < u.ordinal :=
  List.Pairwise.sublist List.filter_sublist (by decide)

/-- And so do its places. -/
theorem pairwise_places (zones : Nat) (tiers : List Tier) :
    (places zones tiers).Pairwise Precedes := by
  rw [places, List.pairwise_flatMap]
  constructor
  · intro t _
    refine List.pairwise_map.2 (List.pairwise_lt_range.imp fun hlt => ?_)
    exact Or.inr ⟨rfl, hlt⟩
  · refine (pairwise_layout tiers).imp fun hlt a ha b hb => ?_
    obtain ⟨_, -, rfl⟩ := List.mem_map.1 ha
    obtain ⟨_, -, rfl⟩ := List.mem_map.1 hb
    exact Or.inl hlt

/-- **What a plan of a layout is**: each place of the layout once, in order,
with the block of its number, and so no address for two places and none
that is not the network's. -/
structure LaysOut (p : Plan) (vpc : AddressBlock) (zones : Nat) (tiers : List Tier) : Prop where
  vpc_eq : p.vpc = vpc
  ordered : p.allocations.Pairwise fun a b => Precedes (a.tier, a.zone) (b.tier, b.zone)
  complete : ∀ t z, (∃ a ∈ p.allocations, a.tier = t ∧ a.zone = z) ↔ t ∈ tiers ∧ z < zones
  numbered : ∀ a ∈ p.allocations, a.block.length = 24 ∧
    a.block.base = vpc.base + (3 * a.tier.ordinal + a.zone) * 256
  disjoint : p.allocations.Pairwise fun a b => ∀ x ∈ a.block, x ∉ b.block
  contained : ∀ a ∈ p.allocations, ∀ x ∈ a.block, x ∈ vpc
  /-- Its tiers ascend, so each is listed once. -/
  tiers_ordered : p.tiers.Pairwise fun t u => t.ordinal < u.ordinal
  mem_tiers : ∀ t, t ∈ p.tiers ↔ t ∈ tiers

/-- Each place has the subnet of its number. -/
theorem subnet?_of_mem (hroom : checkRoom vpc zones tiers = .ok ()) {place : Tier × Nat}
    (h : place ∈ places zones tiers) :
    vpc.subnet? subnetLength (place.1.offset + place.2) =
      some (blockAt vpc place.1 place.2) := by
  obtain ⟨ht, hz⟩ := mem_places.1 h
  have hlt := index_lt_subnetCount hroom ht hz
  simp [blockAt, AddressBlock.subnet?, hlt]

/-- A place before another has the smaller number. -/
theorem number_lt_of_precedes {a b : Tier × Nat} (h : Precedes a b) (ha : a.2 < blocksPerTier) :
    a.1.offset + a.2 < b.1.offset + b.2 := by
  simp only [Tier.offset, blocksPerTier] at ha ⊢
  rcases h with hlt | ⟨heq, hlt⟩
  · omega
  · rw [heq]
    omega

/-- **Where there is room, the plan is one of the layout.** -/
theorem laysOut (hroom : checkRoom vpc zones tiers = .ok ()) (hpos : 0 < zones)
    (hle : zones ≤ blocksPerTier) :
    LaysOut ⟨vpc, (places zones tiers).map (allocationAt vpc)⟩ vpc zones tiers where
  vpc_eq := rfl
  ordered := List.pairwise_map.2 (pairwise_places zones tiers)
  complete t z := by
    rw [← mem_places]
    constructor
    · rintro ⟨a, ha, rfl, rfl⟩
      obtain ⟨place, hplace, rfl⟩ := List.mem_map.1 ha
      exact hplace
    · intro h
      exact ⟨_, List.mem_map_of_mem h, rfl, rfl⟩
  numbered a ha := by
    obtain ⟨place, hplace, rfl⟩ := List.mem_map.1 ha
    obtain ⟨-, hlength, hbase⟩ :=
      AddressBlock.subnet?_eq_some_iff.1 (subnet?_of_mem hroom hplace)
    refine ⟨hlength, hbase.trans ?_⟩
    rw [Tier.offset, Nat.mul_comm place.1.ordinal]
    rfl
  disjoint := by
    refine List.pairwise_map.2 ((pairwise_places zones tiers).imp_of_mem ?_)
    intro a b ha hb hab x hxa hxb
    have hzone : a.2 < blocksPerTier := Nat.lt_of_lt_of_le (mem_places.1 ha).2 hle
    have hapart := AddressBlock.last_lt_of_subnet? (subnet?_of_mem hroom ha)
      (subnet?_of_mem hroom hb) (number_lt_of_precedes hab hzone)
    have hlast : x ≤ (blockAt vpc a.1 a.2).last := (AddressBlock.mem_iff.1 hxa).2
    have hbase : (blockAt vpc b.1 b.2).base ≤ x := (AddressBlock.mem_iff.1 hxb).1
    omega
  contained a ha := by
    obtain ⟨place, hplace, rfl⟩ := List.mem_map.1 ha
    exact AddressBlock.contains_iff.1
      (AddressBlock.contains_of_subnet? (subnet?_of_mem hroom hplace))
  tiers_ordered := by
    rw [tiers_eq hpos]
    exact pairwise_layout tiers
  mem_tiers t := by
    rw [tiers_eq hpos]
    exact mem_layout

/-- **What becomes of a layout.** It is refused for want of room alone, which
is when the last block of some tier is not one of the network block's;
otherwise its plan has each place once, in order, with the block of its
number. The plan depends on the set of the tiers, and one with fewer zones
or tiers is made whenever the larger one is and has the same blocks. -/
theorem allocate_exact (hpos : 0 < zones) (hle : zones ≤ 3) :
    (∀ fault, allocate vpc zones tiers = .error fault ↔
      checkRoom vpc zones tiers = .error fault) ∧
    ((∃ fault, checkRoom vpc zones tiers = .error fault) ↔
      ∃ t ∈ tiers, ¬ 3 * t.ordinal + zones - 1 < vpc.size / 256) ∧
    (∀ p, allocate vpc zones tiers = .ok p →
      p.LaysOut vpc zones tiers ∧ p.isDisjoint = true ∧ p.isContained = true) ∧
    (∀ tiers', (∀ t, t ∈ tiers ↔ t ∈ tiers') →
      allocate vpc zones tiers = allocate vpc zones tiers') ∧
    ∀ p zones' tiers', allocate vpc zones tiers = .ok p → zones' ≤ zones → tiers' ⊆ tiers →
      ∃ p', allocate vpc zones' tiers' = .ok p' ∧
        ∀ t ∈ tiers', ∀ z < zones', ∃ b, p'.get? t z = some b ∧ p.get? t z = some b := by
  have hroom : ∀ {p}, allocate vpc zones tiers = .ok p → checkRoom vpc zones tiers = .ok () := by
    intro p h
    obtain ⟨_, hroom, -⟩ := Fallible.bind_eq_ok.1 h
    exact hroom
  have hplan : ∀ {p}, allocate vpc zones tiers = .ok p →
      p = ⟨vpc, (places zones tiers).map (allocationAt vpc)⟩ := fun h =>
    Except.ok.inj (h.symm.trans (allocate_eq_ok (hroom h)))
  refine ⟨fun fault => allocate_eq_error_iff, exists_checkRoom_eq_error_iff hpos, ?_, ?_, ?_⟩
  · intro p h
    obtain rfl := hplan h
    have hlays := laysOut (hroom h) hpos hle
    exact ⟨hlays, isDisjoint_iff.2 hlays.disjoint, isContained_iff.2 hlays.contained⟩
  · intro tiers' hsame
    have hlayout : layout tiers = layout tiers' :=
      List.filter_congr fun t _ => decide_eq_decide.2 (hsame t)
    simp only [allocate, checkRoom, required_congr hsame, hlayout]
  · intro p zones' tiers' h hz ht
    obtain rfl := hplan h
    refine ⟨_, allocate_eq_ok (checkRoom_mono (hroom h) hz ht), fun t hmem z hlt => ?_⟩
    have hsmall : (t, z) ∈ places zones' tiers' := mem_places.2 ⟨hmem, hlt⟩
    exact ⟨_, get?_eq hsmall, get?_eq ((places_sublist hz ht).subset hsmall)⟩

/-- The last of eight blocks is the last that two zones of the third tier
need. A third zone has no room. -/
theorem allocate_exact_tight :
    (0 < 2 ∧ 2 ≤ 3) ∧
      (∃ p, allocate (.around 0x0a0a0000 21 (by decide)) 2 [.database, .outer, .database] = .ok p ∧
        p.LaysOut (.around 0x0a0a0000 21 (by decide)) 2 [.database, .outer, .database]) ∧
      ∃ fault, allocate (.around 0x0a0a0000 21 (by decide)) 3 [.database, .outer, .database] =
        .error fault := by
  have hroom : checkRoom (.around 0x0a0a0000 21 (by decide)) 2
      [.database, .outer, .database] = .ok () := rfl
  have hnone : ∃ t ∈ [Tier.database, .outer, .database],
      ¬ 3 * t.ordinal + 3 - 1 < (AddressBlock.around 0x0a0a0000 21 (by decide)).size / 256 :=
    ⟨.database, List.mem_cons_self, by decide⟩
  have hpos : 0 < 2 ∧ 2 ≤ 3 := by decide
  obtain ⟨-, -, hmade, -, -⟩ := @allocate_exact (.around 0x0a0a0000 21 (by decide)) 2
    [.database, .outer, .database] hpos.1 hpos.2
  obtain ⟨hsame, hrefused, -, -, -⟩ := @allocate_exact (.around 0x0a0a0000 21 (by decide)) 3
    [.database, .outer, .database] (by decide) (by decide)
  obtain ⟨fault, hfault⟩ := hrefused.2 hnone
  have hplan := allocate_eq_ok hroom
  exact ⟨hpos, ⟨_, hplan, (hmade _ hplan).1⟩, fault, (hsame fault).2 hfault⟩

end Plan

end ClusterBlueprint
