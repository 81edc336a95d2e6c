import ClusterBlueprint.Claim.Document
import ClusterBlueprint.Proofs.Network.BlockText
import ClusterBlueprint.Proofs.Network.Words
/-!
# Network — blocks are nested or apart

Of two blocks that share an address, the one with the shorter length has
the bits that both share, and so every address of the other
(`mem_of_mem_both`). Blocks therefore overlap exactly when one contains the
other (`overlaps_iff_contains`), which intervals in general do not.

This needs that a block starts at a multiple of its size, and every way to
make one sees to that: a block that is read or made around an address is
masked, and a subnet is cut out of a block that has been made before it. The
words that are made so are the words of blocks and no others
(`WordBlock.made_iff`), so what holds of any two blocks holds of any two that
a machine comes by (`relations_exact`).
-/

namespace ClusterBlueprint

namespace WordBlock

/-- How a machine comes by a block. -/
inductive Made : WordBlock → Prop
  /-- From a text. -/
  | read {s : String} {b : AddressBlock} : AddressBlock.read s = .ok b → Made b.words
  /-- From a document. -/
  | decoded {doc : Json} {b : AddressBlock} : AddressBlock.ofJson? doc = some b → Made b.words
  /-- Around an address. -/
  | around {address : BitVec 32} {n : BitVec 8} {made : WordBlock} :
      ofAddress? address n = some (some made) → Made made
  /-- As a subnet of a block that it has. -/
  | subnet {whole made : WordBlock} {n : BitVec 8} {i : BitVec 64} :
      Made whole → whole.subnet? n i = some (some made) → Made made

/-- **The words that are made are the words of blocks.** -/
theorem made_iff {made : WordBlock} : made.Made ↔ ∃ b : AddressBlock, b.words = made := by
  constructor
  · intro h
    induction h with
    | read => exact ⟨_, rfl⟩
    | decoded => exact ⟨_, rfl⟩
    | @around address n made h =>
      have hmasked := ofAddress?_toBitVec (.ofBitVec address) n
      rw [UInt32.toBitVec_ofBitVec, h] at hmasked
      obtain ⟨b, -, hb⟩ := Option.map_eq_some_iff.1 (Option.some.inj hmasked).symm
      exact ⟨b, hb⟩
    | @subnet whole made n i _ h ih =>
      obtain ⟨b, rfl⟩ := ih
      rw [subnet?_words] at h
      obtain ⟨c, -, hc⟩ := Option.map_eq_some_iff.1 (Option.some.inj h)
      exact ⟨c, hc⟩
  · rintro ⟨b, rfl⟩
    exact .read b.read_text

end WordBlock

namespace AddressBlock

variable {b c : AddressBlock} {x y : Nat}

/-- **A block that shares an address with a longer one has all of its
addresses.** -/
theorem mem_of_mem_both (h : b.length ≤ c.length) (hb : x ∈ b) (hc : x ∈ c) (hy : y ∈ c) :
    y ∈ b := by
  have hsize : b.size = c.size * 2 ^ (c.length - b.length) := by
    rw [Nat.mul_comm]
    exact (two_pow_mul_size h c.length_le).symm
  -- the bits that `b` shares are the first of those that `c` shares
  have hfirst : ∀ z, z / b.size = z / c.size / 2 ^ (c.length - b.length) := fun z => by
    rw [hsize, Nat.div_div_eq_div_mul]
  have hsame : y / c.size = x / c.size := Eq.trans hy hc.symm
  have hbits : y / b.size = x / b.size := by rw [hfirst y, hfirst x, hsame]
  exact hbits.trans hb

/-- **Blocks overlap when one contains the other.** -/
theorem overlaps_iff_contains :
    b.overlaps c = true ↔ b.contains c = true ∨ c.contains b = true := by
  rw [overlaps_iff, contains_iff, contains_iff]
  constructor
  · rintro ⟨x, hb, hc⟩
    rcases Nat.le_total b.length c.length with hle | hle
    · exact Or.inl fun y hy => mem_of_mem_both hle hb hc hy
    · exact Or.inr fun y hy => mem_of_mem_both hle hc hb hy
  · rintro (hin | hin)
    · exact ⟨c.base, hin _ c.base_mem, c.base_mem⟩
    · exact ⟨b.base, b.base_mem, hin _ b.base_mem⟩

end AddressBlock

namespace Plan

variable {p : Plan}

/-- **No address is in the blocks of two different places of the list** when
the plan says so of its blocks. -/
theorem isDisjoint_iff_getElem :
    p.isDisjoint = true ↔
      ∀ i j (hi : i < p.allocations.length) (hj : j < p.allocations.length), i ≠ j →
        ∀ x ∈ p.allocations[i].block, x ∉ p.allocations[j].block := by
  rw [isDisjoint_iff, List.pairwise_iff_getElem]
  constructor
  · intro hlater i j hi hj hne x hxi hxj
    rcases Nat.lt_or_gt_of_ne hne with hlt | hgt
    · exact hlater i j hi hj hlt x hxi hxj
    · exact hlater j i hj hi hgt x hxj hxi
  · intro hany i j hi hj hlt
    exact hany i j hi hj (Nat.ne_of_lt hlt)

end Plan

namespace AddressBlock

/-- **Relations of blocks are relations of their addresses.** The blocks that
are made, in whatever way, have no bits past their length, are read back from
their texts, and two of them are nested or apart. So a plan, whatever its
blocks are, is disjoint when no address is in two places, and contained when
every address is one of the network block's. -/
theorem relations_exact (b c : AddressBlock) (p : Plan) :
    (∀ made : WordBlock, made.Made ↔ ∃ b : AddressBlock, b.words = made) ∧
    (∀ k < 32 - b.length, b.base.testBit k = false) ∧
    read b.text = .ok b ∧
    (b.contains c = true ↔ ∀ x ∈ c, x ∈ b) ∧
    (b.overlaps c = true ↔ ∃ x, x ∈ b ∧ x ∈ c) ∧
    (b.overlaps c = true ↔ b.contains c = true ∨ c.contains b = true) ∧
    (p.isDisjoint = true ↔
      ∀ i j (hi : i < p.allocations.length) (hj : j < p.allocations.length), i ≠ j →
        ∀ x ∈ p.allocations[i].block, x ∉ p.allocations[j].block) ∧
    (p.isContained = true ↔ ∀ a ∈ p.allocations, ∀ x ∈ a.block, x ∈ p.vpc) := by
  refine ⟨fun _ => WordBlock.made_iff, fun _ => b.testBit_base, b.read_text, ?_, ?_, ?_, ?_, ?_⟩
  · exact contains_iff
  · exact overlaps_iff
  · exact overlaps_iff_contains
  · exact Plan.isDisjoint_iff_getElem
  · exact Plan.isContained_iff

end AddressBlock

end ClusterBlueprint
