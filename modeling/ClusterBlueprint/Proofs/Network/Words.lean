import ClusterBlueprint.Proofs.Network.Addresses
/-!
# Network — blocks in machine words

A machine holds a block as a word of 32 bits for the first address and a
byte for the length, and works out a subnet in words of 64 bits, where the
result of an operation may be too great for its word. Here every operation
is taken with a check of that (`Word.add?` and the others). No check fails:
the subnets of the words of a block are the words of its subnets
(`WordBlock.subnet?_words`), for all lengths and numbers that words can
hold. The block around an address is made by a mask, which clears the bits
past the length (`WordBlock.ofAddress?_toBitVec`). A subnet is made without
one, and has none of those bits either (`AddressBlock.testBit_base`).
-/

namespace ClusterBlueprint

/-! ## Arithmetic that stays in its word -/

namespace Word

variable {w v : Nat} {x y : BitVec w} {k : BitVec v}

/-- A sum that its word holds. -/
def add? (x y : BitVec w) : Option (BitVec w) :=
  if x.uaddOverflow y then none else some (x + y)

/-- A difference that is not below zero. -/
def subtract? (x y : BitVec w) : Option (BitVec w) :=
  if x.usubOverflow y then none else some (x - y)

/-- A product that its word holds. -/
def multiply? (x y : BitVec w) : Option (BitVec w) :=
  if x.umulOverflow y then none else some (x * y)

/-- A word moved up by fewer bits than it has. -/
def moveUp? (x : BitVec w) (k : BitVec v) : Option (BitVec w) :=
  if k.toNat < w then some (x <<< k.toNat) else none

/-- A word in fewer bits, if they are enough for it. -/
def narrow? (v : Nat) (x : BitVec w) : Option (BitVec v) :=
  if x.toNat < 2 ^ v then some (x.setWidth v) else none

theorem exists_add? (h : x.toNat + y.toNat < 2 ^ w) :
    ∃ z, add? x y = some z ∧ z.toNat = x.toNat + y.toNat := by
  have hstays : ¬ x.uaddOverflow y = true := by simp [BitVec.uaddOverflow, h]
  exact ⟨x + y, if_neg hstays, BitVec.toNat_add_of_not_uaddOverflow hstays⟩

theorem exists_subtract? (h : y.toNat ≤ x.toNat) :
    ∃ z, subtract? x y = some z ∧ z.toNat = x.toNat - y.toNat := by
  have hstays : ¬ x.usubOverflow y = true := by simp [BitVec.usubOverflow, h]
  exact ⟨x - y, if_neg hstays, BitVec.toNat_sub_of_not_usubOverflow hstays⟩

theorem exists_multiply? (h : x.toNat * y.toNat < 2 ^ w) :
    ∃ z, multiply? x y = some z ∧ z.toNat = x.toNat * y.toNat := by
  have hstays : ¬ x.umulOverflow y = true := by simp [BitVec.umulOverflow, h]
  exact ⟨x * y, if_neg hstays, BitVec.toNat_mul_of_not_umulOverflow hstays⟩

/-- One, moved up, is a power of two. -/
theorem exists_moveUp?_one (h : k.toNat < w) :
    ∃ z, moveUp? 1#w k = some z ∧ z.toNat = 2 ^ k.toNat := by
  refine ⟨1#w <<< k.toNat, if_pos h, ?_⟩
  have hne : w ≠ 0 := by omega
  have hone : (1 : Nat) < 2 ^ w := Nat.one_lt_two_pow hne
  have hpow : (2 : Nat) ^ k.toNat < 2 ^ w := Nat.pow_lt_pow_right (by decide) h
  rw [BitVec.toNat_shiftLeft, BitVec.toNat_ofNat, Nat.mod_eq_of_lt hone, Nat.one_shiftLeft,
    Nat.mod_eq_of_lt hpow]

theorem exists_narrow? (h : x.toNat < 2 ^ v) :
    ∃ z, narrow? v x = some z ∧ z.toNat = x.toNat := by
  refine ⟨x.setWidth v, if_pos h, ?_⟩
  rw [BitVec.toNat_setWidth, Nat.mod_eq_of_lt h]

end Word

/-- A block as a machine holds it. Nothing says that its two parts belong
together. -/
structure WordBlock where
  base : BitVec 32
  length : BitVec 8
deriving DecidableEq

namespace AddressBlock

variable {b : AddressBlock}

/-- The words of a block. -/
def words (b : AddressBlock) : WordBlock := ⟨.ofNat 32 b.base, .ofNat 8 b.length⟩

@[simp] theorem toNat_base_words (b : AddressBlock) : b.words.base.toNat = b.base :=
  Nat.mod_eq_of_lt b.base_lt

@[simp] theorem toNat_length_words (b : AddressBlock) : b.words.length.toNat = b.length := by
  have hle := b.length_le
  exact Nat.mod_eq_of_lt (by omega)

/-- Words are those of a block that has their numbers. -/
theorem words_eq {base : BitVec 32} {length : BitVec 8} (hbase : b.base = base.toNat)
    (hlength : b.length = length.toNat) : b.words = ⟨base, length⟩ := by
  rw [words, hbase, hlength, BitVec.ofNat_toNat, BitVec.ofNat_toNat, BitVec.setWidth_eq,
    BitVec.setWidth_eq]

/-- **The bits past the length are zero.** -/
theorem testBit_base (b : AddressBlock) {k : Nat} (h : k < 32 - b.length) :
    b.base.testBit k = false := by
  rw [← b.size_mul_div, Nat.mul_comm, size, Nat.testBit_mul_two_pow,
    decide_eq_false (by omega), Bool.false_and]

end AddressBlock

namespace WordBlock

variable {b : AddressBlock} {n : BitVec 8} {i : BitVec 64}

/-! ## The block around an address -/

/-- The bits that the addresses of a block share. -/
def mask? (n : BitVec 8) : Option (BitVec 32) :=
  if n = 0#8 then some 0#32
  else do
    let free ← Word.subtract? 32#32 (n.setWidth 32)
    Word.moveUp? (BitVec.allOnes 32) free

/-- The block of a length around an address, if there is such a length. The
outer option is empty when an operation leaves its word. -/
def ofAddress? (address : BitVec 32) (n : BitVec 8) : Option (Option WordBlock) :=
  if 32 < n then pure none
  else do
    let shared ← mask? n
    pure (some ⟨address &&& shared, n⟩)

/-- How many bits are not shared. -/
theorem exists_free (h : n.toNat ≤ 32) :
    ∃ free, Word.subtract? 32#32 (n.setWidth 32) = some free ∧ free.toNat = 32 - n.toNat := by
  have hn : (n.setWidth 32).toNat = n.toNat := BitVec.toNat_setWidth_of_le (by decide)
  have hle : (n.setWidth 32).toNat ≤ (32#32).toNat := by rw [hn]; exact h
  obtain ⟨free, hfree, hvalue⟩ := Word.exists_subtract? hle
  exact ⟨free, hfree, hvalue.trans (by rw [hn]; rfl)⟩

/-- **A mask clears the bits past the length.** -/
theorem exists_mask? (h : n.toNat ≤ 32) :
    ∃ shared, mask? n = some shared ∧ ∀ address : BitVec 32,
      (address &&& shared).toNat = address.toNat / 2 ^ (32 - n.toNat) * 2 ^ (32 - n.toNat) := by
  rw [mask?]
  split
  · next hzero =>
    -- no bit is shared, and a move by all bits is not one of the machine's
    refine ⟨0#32, rfl, fun address => ?_⟩
    subst hzero
    have hnone : address.toNat / 2 ^ 32 = 0 := Nat.div_eq_of_lt address.isLt
    have hclear : (address &&& 0#32).toNat = 0 := by rw [BitVec.and_zero, BitVec.toNat_zero]
    exact hclear.trans (by rw [BitVec.toNat_zero, hnone, Nat.zero_mul])
  · next hpos =>
    have hne : n.toNat ≠ 0 := fun hzero => hpos (BitVec.eq_of_toNat_eq hzero)
    obtain ⟨free, hfree, hvalue⟩ := exists_free h
    refine ⟨BitVec.allOnes 32 <<< free.toNat, ?_, fun address => ?_⟩
    · rw [hfree]
      exact if_pos (by omega)
    · have hlt : address.toNat / 2 ^ (32 - n.toNat) * 2 ^ (32 - n.toNat) < 2 ^ 32 :=
        Nat.lt_of_le_of_lt (Nat.div_mul_le_self _ _) address.isLt
      rw [← BitVec.shiftLeft_ushiftRight, BitVec.toNat_shiftLeft, BitVec.toNat_ushiftRight, hvalue,
        Nat.shiftRight_eq_div_pow, Nat.shiftLeft_eq, Nat.mod_eq_of_lt hlt]

/-- **A block is made around an address without leaving a word.** -/
theorem ofAddress?_toBitVec (address : UInt32) (n : BitVec 8) :
    ofAddress? address.toBitVec n =
      some ((AddressBlock.ofAddress address n.toNat).toOption.map AddressBlock.words) := by
  rw [ofAddress?, AddressBlock.ofAddress]
  by_cases h : n.toNat ≤ 32
  · obtain ⟨shared, hshared, hand⟩ := exists_mask? h
    have hwords : (AddressBlock.around address n.toNat h).words =
        ⟨address.toBitVec &&& shared, n⟩ := AddressBlock.words_eq (hand _).symm rfl
    rw [if_neg (by rw [BitVec.lt_def]; exact Nat.not_lt.2 h), hshared, dif_pos h]
    exact congrArg (some ∘ some) hwords.symm
  · rw [if_pos (by rw [BitVec.lt_def]; exact Nat.not_le.1 h), dif_neg h]
    rfl

/-! ## Subnets -/

/-- How many subnets of a length there are. -/
def subnetCount? (b : WordBlock) (n : BitVec 8) : Option (BitVec 64) :=
  if n < b.length ∨ 32 < n then some 0
  else do
    let more ← Word.subtract? n b.length
    Word.moveUp? 1#64 more

/-- The subnet of a number, if there is one. Its first address is worked out
in 64 bits and has to fit into 32. -/
def subnet? (b : WordBlock) (n : BitVec 8) (i : BitVec 64) : Option (Option WordBlock) := do
  let count ← b.subnetCount? n
  if count ≤ i then pure none
  else do
    let free ← Word.subtract? 32#32 (n.setWidth 32)
    let step ← Word.moveUp? 1#64 free
    let ahead ← Word.multiply? i step
    let start ← Word.add? (b.base.setWidth 64) ahead
    let base ← Word.narrow? 32 start
    pure (some ⟨base, n⟩)

/-- A block has at most `2 ^ 32` subnets, which a word of 64 bits can
count. -/
theorem exists_subnetCount? (b : AddressBlock) (n : BitVec 8) :
    ∃ count, b.words.subnetCount? n = some count ∧ count.toNat = b.subnetCount n.toNat := by
  have hcases : (n < b.words.length ∨ 32 < n) ↔ (n.toNat < b.length ∨ 32 < n.toNat) := by
    rw [BitVec.lt_def, BitVec.lt_def, b.toNat_length_words]
    rfl
  rw [subnetCount?, AddressBlock.subnetCount]
  by_cases h : n.toNat < b.length ∨ 32 < n.toNat
  · rw [if_pos (hcases.2 h), if_pos h]
    exact ⟨0, rfl, rfl⟩
  · have hlength := b.toNat_length_words
    obtain ⟨more, hmore, hvalue⟩ := Word.exists_subtract? (x := n) (y := b.words.length) (by omega)
    obtain ⟨count, hcount, hpow⟩ := Word.exists_moveUp?_one (w := 64) (k := more) (by omega)
    rw [if_neg (fun hc => h (hcases.1 hc)), if_neg h, hmore]
    exact ⟨count, hcount, by rw [hpow, hvalue, hlength]⟩

/-- **The subnets of words are the words of subnets.** -/
theorem subnet?_words (b : AddressBlock) (n : BitVec 8) (i : BitVec 64) :
    b.words.subnet? n i = some ((b.subnet? n.toNat i.toNat).map AddressBlock.words) := by
  obtain ⟨count, hcount, hsame⟩ := exists_subnetCount? b n
  rw [subnet?, hcount]
  by_cases h : i.toNat < b.subnetCount n.toNat
  · have hin : ¬ count ≤ i := by rw [BitVec.le_def]; omega
    have hfirst : (b.words.base.setWidth 64).toNat = b.base :=
      (BitVec.toNat_setWidth_of_le (by decide)).trans b.toNat_base_words
    have hlt := AddressBlock.subnet_base_lt h
    -- the end of the way fits into 32 bits, so all that leads to it fits into 64
    obtain ⟨free, hfree, hfreeN⟩ := exists_free (AddressBlock.lt_of_lt_subnetCount h).2.1
    obtain ⟨step, hstep, hstepN⟩ := Word.exists_moveUp?_one (w := 64) (k := free) (by omega)
    rw [hfreeN] at hstepN
    obtain ⟨ahead, hahead, haheadN⟩ := Word.exists_multiply? (x := i) (y := step) (by
      rw [hstepN]; omega)
    rw [hstepN] at haheadN
    obtain ⟨start, hstart, hstartN⟩ :=
      Word.exists_add? (x := b.words.base.setWidth 64) (y := ahead) (by omega)
    obtain ⟨base, hbase, hbaseN⟩ := Word.exists_narrow? (v := 32) (x := start) (by omega)
    obtain ⟨c, hc⟩ : ∃ c, b.subnet? n.toNat i.toNat = some c := ⟨_, dif_pos h⟩
    obtain ⟨-, hlength, hcbase⟩ := AddressBlock.subnet?_eq_some_iff.1 hc
    have hwords : c.words = ⟨base, n⟩ :=
      AddressBlock.words_eq (by rw [hcbase, hbaseN, hstartN, hfirst, haheadN]) hlength
    rw [hc, Option.map_some, hwords]
    simp only [Option.bind_eq_bind, Option.bind_some, if_neg hin, hfree, hstep, hahead, hstart,
      hbase]
    rfl
  · have hout : count ≤ i := by rw [BitVec.le_def]; omega
    have hnone : b.subnet? n.toNat i.toNat = none := dif_neg h
    rw [hnone]
    exact if_pos hout

end WordBlock

end ClusterBlueprint
