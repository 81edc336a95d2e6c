import ClusterBlueprint.Power
import ClusterBlueprint.Text.Blank
import ClusterBlueprint.Text.Digits
/-!
# Network — blocks of IPv4 addresses

A block is the set of the addresses that share their first `length` bits,
written `a.b.c.d/length`. It is held as its first address and its length;
that the bits after the shared ones are zero is part of the type, so a
block and the set of its addresses determine each other. Addresses are
numbers below `2 ^ 32`.

A block divides into subnets of any greater length, which are numbered in
the order of their addresses. The arithmetic of the subnet keeps the two
facts of the type (`subnet_base_lt`, `subnet_base_mod`), so a subnet is
built without masking it again.
-/

namespace ClusterBlueprint

/-- Why a text is no block of addresses. -/
inductive BlockError where
  /-- What stands before the slash is no address. -/
  | address (text : String)
  /-- There is no slash, or no number after it. -/
  | form (text : String)
  /-- The number after the slash is greater than 32. -/
  | length (n : Nat)
deriving DecidableEq

namespace BlockError

/-- The text of the error. -/
def message : BlockError → String
  | .address text => "Invalid IPv4 address format: " ++ text
  | .form text => "Invalid CIDR notation: " ++ text
  | .length n => "Invalid prefix length: " ++ toString n ++ " (must be 0-32 for IPv4)"

end BlockError

/-- A block of addresses: its first address and the number of bits that
its addresses share. -/
structure AddressBlock where
  base : Nat
  length : Nat
  length_le : length ≤ 32
  base_lt : base < 2 ^ 32
  aligned : base % 2 ^ (32 - length) = 0
deriving DecidableEq

namespace AddressBlock

/-- How many addresses the block has. -/
def size (b : AddressBlock) : Nat := 2 ^ (32 - b.length)

/-- The last address. -/
def last (b : AddressBlock) : Nat := b.base + (b.size - 1)

/-- The block of a given length around an address. -/
def around (address : UInt32) (length : Nat) (h : length ≤ 32) : AddressBlock where
  base := address.toNat / 2 ^ (32 - length) * 2 ^ (32 - length)
  length := length
  length_le := h
  base_lt := Nat.lt_of_le_of_lt (Nat.div_mul_le_self _ _) address.toNat_lt
  aligned := Nat.mul_mod_left _ _

/-- The block of a given length around an address, if there is such a
length. -/
def ofAddress (address : UInt32) (length : Nat) : Except BlockError AddressBlock :=
  if h : length ≤ 32 then .ok (around address length h) else .error (.length length)

/-! ## Subnets -/

/-- The addresses of a block stay below `2 ^ 32`. -/
theorem base_add_size_le (b : AddressBlock) : b.base + b.size ≤ 2 ^ 32 := by
  have hpow : 2 ^ 32 = 2 ^ b.length * b.size := by
    rw [size, ← Nat.pow_add, Nat.add_sub_cancel' b.length_le]
  obtain ⟨q, hq⟩ := Nat.dvd_of_mod_eq_zero b.aligned
  have hq : b.base = b.size * q := hq
  have hlt : b.size * q < b.size * 2 ^ b.length := by
    rw [← hq, Nat.mul_comm b.size, ← hpow]; exact b.base_lt
  have hq1 : q + 1 ≤ 2 ^ b.length := Nat.lt_of_mul_lt_mul_left hlt
  calc b.base + b.size = b.size * (q + 1) := by rw [hq, Nat.mul_add, Nat.mul_one]
    _ ≤ b.size * 2 ^ b.length := Nat.mul_le_mul_left _ hq1
    _ = 2 ^ 32 := by rw [hpow, Nat.mul_comm]

/-- How many subnets of length `n` the block has. -/
def subnetCount (b : AddressBlock) (n : Nat) : Nat :=
  if n < b.length ∨ 32 < n then 0 else 2 ^ (n - b.length)

/-- The subnets of length `n` fill the block. -/
theorem two_pow_mul_size {b : AddressBlock} {n : Nat} (hlo : b.length ≤ n) (hhi : n ≤ 32) :
    2 ^ (n - b.length) * 2 ^ (32 - n) = b.size := by
  rw [size, ← Nat.pow_add]; congr 1; omega

theorem lt_of_lt_subnetCount {b : AddressBlock} {n i : Nat} (h : i < b.subnetCount n) :
    b.length ≤ n ∧ n ≤ 32 ∧ i < 2 ^ (n - b.length) := by
  unfold subnetCount at h
  split at h
  · omega
  · omega

/-- A subnet lies in its block, so its addresses stay in range. -/
theorem subnet_base_lt {b : AddressBlock} {n i : Nat} (h : i < b.subnetCount n) :
    b.base + i * 2 ^ (32 - n) < 2 ^ 32 := by
  obtain ⟨hlo, hhi, hi⟩ := lt_of_lt_subnetCount h
  have hmul : i * 2 ^ (32 - n) < 2 ^ (n - b.length) * 2 ^ (32 - n) :=
    Nat.mul_lt_mul_of_pos_right hi (Nat.two_pow_pos _)
  rw [two_pow_mul_size hlo hhi] at hmul
  have := b.base_add_size_le
  omega

/-- A subnet starts at a multiple of its size. -/
theorem subnet_base_mod {b : AddressBlock} {n i : Nat} (h : i < b.subnetCount n) :
    (b.base + i * 2 ^ (32 - n)) % 2 ^ (32 - n) = 0 := by
  obtain ⟨hlo, hhi, -⟩ := lt_of_lt_subnetCount h
  have hdvd : 2 ^ (32 - n) ∣ b.base :=
    Nat.dvd_trans (Nat.pow_dvd_pow 2 (by omega)) (Nat.dvd_of_mod_eq_zero b.aligned)
  exact Nat.mod_eq_zero_of_dvd (Nat.dvd_add hdvd (Nat.dvd_mul_left _ _))

/-- The `i`-th subnet of length `n`, counted from zero. -/
def subnet? (b : AddressBlock) (n i : Nat) : Option AddressBlock :=
  if h : i < b.subnetCount n then
    some
      { base := b.base + i * 2 ^ (32 - n)
        length := n
        length_le := (lt_of_lt_subnetCount h).2.1
        base_lt := subnet_base_lt h
        aligned := subnet_base_mod h }
  else none

/-! ## Relations -/

/-- Whether every address of `c` is one of `b`, read off the two ends. -/
def contains (b c : AddressBlock) : Bool := decide (b.base ≤ c.base ∧ c.last ≤ b.last)

/-- Whether the blocks share an address, read off the two ends. -/
def overlaps (b c : AddressBlock) : Bool := decide (b.base ≤ c.last ∧ c.base ≤ b.last)

/-- The order by first address, then by length. -/
def order (b c : AddressBlock) : Ordering :=
  (compare b.base c.base).then (compare b.length c.length)

/-! ## Text -/

/-- An address in its four decimal parts. -/
def addressText (address : Nat) : String :=
  toString (address / 2 ^ 24 % 256) ++ "." ++ toString (address / 2 ^ 16 % 256) ++ "."
    ++ toString (address / 2 ^ 8 % 256) ++ "." ++ toString (address % 256)

/-- The block as text. -/
def text (b : AddressBlock) : String := addressText b.base ++ "/" ++ toString b.length

/-- One part of an address: a decimal below 256, written without leading
zeros. -/
def readOctet (cs : List Char) : Option Nat :=
  if cs.head? = some '0' ∧ cs.length ≠ 1 then none
  else (Text.digitsValue? cs).filter (· < 256)

/-- An address in its four decimal parts. -/
def readAddress (cs : List Char) : Option UInt32 := do
  let (a, rest) ← Text.splitFirst '.' cs
  let (b, rest) ← Text.splitFirst '.' rest
  let (c, d) ← Text.splitFirst '.' rest
  let a ← readOctet a
  let b ← readOctet b
  let c ← readOctet c
  let d ← readOctet d
  pure (UInt32.ofNat (((a * 256 + b) * 256 + c) * 256 + d))

/-- Reads a block. The address is judged before the length, and bits of the
address beyond the length are cleared. -/
def read (s : String) : Except BlockError AddressBlock :=
  let trimmed := Text.trim s
  match Text.splitFirst '/' trimmed.toList with
  | none => .error (.form trimmed)
  | some (before, after) =>
    match readAddress before with
    | none => .error (.address (String.ofList before))
    | some address =>
      match Text.readUnsigned 256 after with
      | none => .error (.form trimmed)
      | some length => ofAddress address length

/-- The block of every address. -/
def all : AddressBlock := around 0 0 (by decide)

end AddressBlock

end ClusterBlueprint
