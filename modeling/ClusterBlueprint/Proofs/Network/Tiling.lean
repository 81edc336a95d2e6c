import ClusterBlueprint.Proofs.Network.Words
import Mathlib.Logic.ExistsUnique
/-!
# Network — subnets tile their block

The subnets of one length lie in their block side by side, in the order of
their numbers (`lt_of_mem_subnets`). An address of the block is in the one
whose number is its distance from the first address, counted in subnets
(`exists_subnet_of_mem`), and in no other. So the subnets fill the block
without a gap and do not overlap (`Tiles`). This holds of the subnets as
words compute them, where it takes in the block of every address and its
`2 ^ 32` subnets of one address each (`subnets_exact`).
-/

namespace ClusterBlueprint

namespace AddressBlock

variable {b c d : AddressBlock} {n i j x y : Nat}

/-- There are as many subnets as are counted. -/
theorem isSome_subnet?_iff : (b.subnet? n i).isSome ↔ i < b.subnetCount n := by
  rw [subnet?]
  split
  · next h => exact iff_of_true rfl h
  · next h => exact iff_of_false Bool.false_ne_true h

/-- **Subnets follow each other**: the addresses of one are below those of
any with a greater number. -/
theorem lt_of_mem_subnets (hc : b.subnet? n i = some c) (hd : b.subnet? n j = some d)
    (h : i < j) (hx : x ∈ c) (hy : y ∈ d) : x < y := by
  have hlast := (mem_iff.1 hx).2
  have hbase := (mem_iff.1 hy).1
  have hapart := last_lt_of_subnet? hc hd h
  omega

/-- So an address is in one of them at most. -/
theorem eq_of_mem_subnets (hc : b.subnet? n i = some c) (hd : b.subnet? n j = some d)
    (hxc : x ∈ c) (hxd : x ∈ d) : i = j := by
  rcases Nat.lt_trichotomy i j with hlt | heq | hgt
  · exact absurd (lt_of_mem_subnets hc hd hlt hxc hxd) (Nat.lt_irrefl x)
  · exact heq
  · exact absurd (lt_of_mem_subnets hd hc hgt hxd hxc) (Nat.lt_irrefl x)

/-- **An address of the block is in a subnet**: the one whose number is the
distance from the first address, in whole subnets. -/
theorem exists_subnet_of_mem (hlo : b.length ≤ n) (hhi : n ≤ 32) (h : x ∈ b) :
    ∃ c, b.subnet? n ((x - b.base) / 2 ^ (32 - n)) = some c ∧ x ∈ c := by
  obtain ⟨hfrom, hto⟩ := mem_iff.1 h
  have hstep : (0 : Nat) < 2 ^ (32 - n) := Nat.two_pow_pos _
  have hsize := two_pow_mul_size hlo hhi
  have hpos := b.size_pos
  have hinside : x - b.base < 2 ^ (n - b.length) * 2 ^ (32 - n) := by
    rw [hsize]
    unfold last at hto
    omega
  have hcount : (x - b.base) / 2 ^ (32 - n) < b.subnetCount n := by
    rw [subnetCount, if_neg (by omega)]
    exact (Nat.div_lt_iff_lt_mul hstep).2 hinside
  obtain ⟨c, hc⟩ := Option.isSome_iff_exists.1 (isSome_subnet?_iff.2 hcount)
  obtain ⟨-, rfl, hbase⟩ := subnet?_eq_some_iff.1 hc
  refine ⟨c, hc, mem_iff.2 ?_⟩
  -- the distance is at least the start of its subnet and short of the next one
  have hleast := Nat.div_mul_le_self (x - b.base) (2 ^ (32 - c.length))
  have hnext := Nat.lt_div_mul_add (a := x - b.base) hstep
  unfold last size
  omega

/-- **Subnets of a length tile their block**: every address is in exactly
one of them, and their order is that of their addresses. -/
structure Tiles (b : AddressBlock) (n : Nat) : Prop where
  existsUnique : ∀ x ∈ b, ∃! i, i < b.subnetCount n ∧ ∃ c, b.subnet? n i = some c ∧ x ∈ c
  ordered : ∀ i j c d, b.subnet? n i = some c → b.subnet? n j = some d →
    (i < j ↔ ∀ x ∈ c, ∀ y ∈ d, x < y)

theorem tiles (hlo : b.length ≤ n) (hhi : n ≤ 32) : b.Tiles n where
  existsUnique x hx := by
    obtain ⟨c, hc, hxc⟩ := exists_subnet_of_mem hlo hhi hx
    refine ⟨_, ⟨(subnet?_eq_some_iff.1 hc).1, c, hc, hxc⟩, ?_⟩
    rintro j ⟨-, d, hd, hxd⟩
    exact eq_of_mem_subnets hd hc hxd hxc
  ordered i j c d hc hd := by
    refine ⟨fun hij x hx y hy => lt_of_mem_subnets hc hd hij hx hy, fun hbelow => ?_⟩
    have hbases := hbelow _ c.base_mem _ d.base_mem
    rcases Nat.lt_trichotomy i j with hlt | rfl | hgt
    · exact hlt
    · obtain rfl : c = d := Option.some.inj (hc.symm.trans hd)
      exact absurd hbases (Nat.lt_irrefl _)
    · exact absurd hbases (Nat.lt_asymm (lt_of_mem_subnets hd hc hgt d.base_mem c.base_mem))

/-- **Subnets are exact.** Words compute the subnet of any number for any
length without leaving their bits, and there is one exactly when the number
is below the count. It has the length, no bits past it, and only addresses
of the block; and for a length that the block divides into, the subnets
tile it. -/
theorem subnets_exact (b : AddressBlock) (n : BitVec 8) (i : BitVec 64) :
    (∃ count, b.words.subnetCount? n = some count ∧ count.toNat = b.subnetCount n.toNat) ∧
    b.words.subnet? n i = some ((b.subnet? n.toNat i.toNat).map words) ∧
    ((b.subnet? n.toNat i.toNat).isSome ↔ i.toNat < b.subnetCount n.toNat) ∧
    (∀ c, b.subnet? n.toNat i.toNat = some c →
      c.length = n.toNat ∧ (∀ k < 32 - n.toNat, c.base.testBit k = false) ∧
        b.contains c = true ∧ ∀ x ∈ c, x ∈ b) ∧
    (b.length ≤ n.toNat → n.toNat ≤ 32 → b.Tiles n.toNat) := by
  refine ⟨WordBlock.exists_subnetCount? b n, WordBlock.subnet?_words b n i, isSome_subnet?_iff,
    fun c hc => ?_, tiles⟩
  have hcontains := contains_of_subnet? hc
  obtain ⟨-, hlength, -⟩ := subnet?_eq_some_iff.1 hc
  refine ⟨hlength, fun k hk => c.testBit_base ?_, hcontains, contains_iff.1 hcontains⟩
  rwa [hlength]

/-- The last address is the last subnet of one address, and there is none
after it. -/
example : all.words.subnet? 32 0xffffffff = some (some ⟨0xffffffff, 32⟩) ∧
    all.words.subnet? 32 0x100000000 = some none := by decide

end AddressBlock

end ClusterBlueprint
