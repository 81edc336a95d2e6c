import ClusterBlueprint.Network.Plan
/-!
# Network — the addresses of a block

An address is in a block when it has the bits that the block's addresses
share. Because the other bits of a block's first address are zero, those
addresses are the ones from the first to the last, without a gap
(`mem_iff`). So the relations that are read off the two ends of blocks are
relations of their sets of addresses (`contains_iff`, `overlaps_iff`), and
what a plan says of its blocks it says of their addresses
(`Plan.isDisjoint_iff`, `Plan.isContained_iff`).
-/

namespace ClusterBlueprint

namespace AddressBlock

variable {b c : AddressBlock} {x : Nat}

/-- An address is in a block when it has the bits that the block shares. -/
instance : Membership Nat AddressBlock := ⟨fun b x => x / b.size = b.base / b.size⟩

instance (x : Nat) (b : AddressBlock) : Decidable (x ∈ b) :=
  inferInstanceAs (Decidable (x / b.size = b.base / b.size))

theorem size_pos (b : AddressBlock) : 0 < b.size := Nat.two_pow_pos _

/-- The first address is a multiple of the size. -/
theorem size_mul_div (b : AddressBlock) : b.size * (b.base / b.size) = b.base :=
  Nat.mul_div_cancel' (Nat.dvd_of_mod_eq_zero b.aligned)

/-- **The addresses of a block are those from the first to the last.** -/
theorem mem_iff : x ∈ b ↔ b.base ≤ x ∧ x ≤ b.last := by
  have hpos := b.size_pos
  have hstart := b.size_mul_div
  show x / b.size = b.base / b.size ↔ b.base ≤ x ∧ x ≤ b.base + (b.size - 1)
  constructor
  · intro h
    have hlo := Nat.mul_div_le x b.size
    have hhi := Nat.lt_mul_div_succ x hpos
    rw [h, Nat.mul_add, hstart, Nat.mul_one] at hhi
    rw [h, hstart] at hlo
    omega
  · rintro ⟨hlo, hhi⟩
    refine (Nat.div_eq_iff hpos).2 ?_
    rw [Nat.mul_comm, hstart]
    exact ⟨hlo, by omega⟩

theorem base_mem (b : AddressBlock) : b.base ∈ b := rfl

theorem last_mem (b : AddressBlock) : b.last ∈ b := mem_iff.2 ⟨Nat.le_add_right _ _, Nat.le_refl _⟩

/-- **A block contains another when it has all its addresses.** -/
theorem contains_iff : b.contains c = true ↔ ∀ x ∈ c, x ∈ b := by
  rw [contains, decide_eq_true_eq]
  constructor
  · rintro ⟨hbase, hlast⟩ x hx
    obtain ⟨hlo, hhi⟩ := mem_iff.1 hx
    exact mem_iff.2 ⟨Nat.le_trans hbase hlo, Nat.le_trans hhi hlast⟩
  · intro h
    exact ⟨(mem_iff.1 (h _ c.base_mem)).1, (mem_iff.1 (h _ c.last_mem)).2⟩

/-- **Two blocks overlap when they share an address.** -/
theorem overlaps_iff : b.overlaps c = true ↔ ∃ x, x ∈ b ∧ x ∈ c := by
  rw [overlaps, decide_eq_true_eq]
  constructor
  · rintro ⟨hbc, hcb⟩
    -- the later of the two first addresses is in both
    refine ⟨max b.base c.base, mem_iff.2 ?_, mem_iff.2 ?_⟩
    · exact ⟨Nat.le_max_left _ _, Nat.max_le.2 ⟨(mem_iff.1 b.last_mem).1, hcb⟩⟩
    · exact ⟨Nat.le_max_right _ _, Nat.max_le.2 ⟨hbc, (mem_iff.1 c.last_mem).1⟩⟩
  · rintro ⟨x, hb, hc⟩
    obtain ⟨hblo, hbhi⟩ := mem_iff.1 hb
    obtain ⟨hclo, hchi⟩ := mem_iff.1 hc
    exact ⟨Nat.le_trans hblo hchi, Nat.le_trans hclo hbhi⟩

/-- Blocks that do not overlap share no address. -/
theorem overlaps_eq_false_iff : b.overlaps c = false ↔ ∀ x ∈ b, x ∉ c := by
  rw [← Bool.not_eq_true, overlaps_iff]
  constructor
  · intro h x hb hc
    exact h ⟨x, hb, hc⟩
  · rintro h ⟨x, hb, hc⟩
    exact h x hb hc

/-! ## Subnets -/

/-- What the `i`-th subnet of a length is. -/
theorem subnet?_eq_some_iff {n i : Nat} :
    b.subnet? n i = some c ↔
      i < b.subnetCount n ∧ c.length = n ∧ c.base = b.base + i * 2 ^ (32 - n) := by
  rw [subnet?]
  constructor
  · intro h
    split at h
    · next hi =>
      cases h
      exact ⟨hi, rfl, rfl⟩
    · cases h
  · rintro ⟨hi, hlength, hbase⟩
    obtain ⟨base, length, hle, hlt, haligned⟩ := c
    obtain rfl : length = n := hlength
    obtain rfl : base = b.base + i * 2 ^ (32 - length) := hbase
    exact dif_pos hi

/-- How many blocks of 256 addresses a block divides into: none if it is
smaller itself. -/
theorem subnetCount_eq (b : AddressBlock) : b.subnetCount subnetLength = b.size / 256 := by
  unfold subnetCount size subnetLength
  split
  · next h =>
    have hsmall : (2 : Nat) ^ (32 - b.length) < 2 ^ 8 := Nat.pow_lt_pow_right (by decide) (by omega)
    exact (Nat.div_eq_of_lt hsmall).symm
  · next h =>
    have hparts : (2 : Nat) ^ (24 - b.length) * 2 ^ 8 = 2 ^ (32 - b.length) := by
      rw [← Nat.pow_add]
      congr 1
      omega
    rw [← hparts]
    exact (Nat.mul_div_cancel _ (by decide)).symm

/-- **A subnet is contained in its block.** -/
theorem contains_of_subnet? {n i : Nat} (h : b.subnet? n i = some c) : b.contains c = true := by
  obtain ⟨hi, rfl, hbase⟩ := subnet?_eq_some_iff.1 h
  obtain ⟨hlo, hhi, hlt⟩ := lt_of_lt_subnetCount hi
  have hend : i * c.size + c.size ≤ b.size := by
    calc i * c.size + c.size = (i + 1) * c.size := (Nat.succ_mul i c.size).symm
      _ ≤ 2 ^ (c.length - b.length) * c.size := Nat.mul_le_mul_right _ hlt
      _ = b.size := two_pow_mul_size hlo hhi
  have hbase : c.base = b.base + i * c.size := hbase
  have hpos := c.size_pos
  rw [contains, decide_eq_true_eq, last, last]
  omega

/-- **A subnet ends before the ones with a greater number.** -/
theorem last_lt_of_subnet? {d : AddressBlock} {n i j : Nat} (hc : b.subnet? n i = some c)
    (hd : b.subnet? n j = some d) (h : i < j) : c.last < d.base := by
  obtain ⟨-, rfl, hcbase⟩ := subnet?_eq_some_iff.1 hc
  obtain ⟨-, -, hdbase⟩ := subnet?_eq_some_iff.1 hd
  have hstep : i * c.size + c.size ≤ j * c.size := by
    rw [← Nat.succ_mul]
    exact Nat.mul_le_mul_right _ h
  have hcbase : c.base = b.base + i * c.size := hcbase
  have hdbase : d.base = b.base + j * c.size := hdbase
  have hpos := c.size_pos
  rw [last]
  omega

end AddressBlock

namespace Plan

variable {p : Plan}

/-- **No address is in the blocks of two places of a plan** when it says so
of its blocks. -/
theorem isDisjoint_iff :
    p.isDisjoint = true ↔ p.allocations.Pairwise fun a b => ∀ x ∈ a.block, x ∉ b.block := by
  rw [isDisjoint, decide_eq_true_eq]
  simp only [AddressBlock.overlaps_eq_false_iff]

/-- **Every address of a plan is one of the network block** when it says so
of its blocks. -/
theorem isContained_iff :
    p.isContained = true ↔ ∀ a ∈ p.allocations, ∀ x ∈ a.block, x ∈ p.vpc := by
  rw [isContained, List.all_eq_true]
  simp only [AddressBlock.contains_iff]

end Plan

end ClusterBlueprint
