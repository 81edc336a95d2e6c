import ClusterBlueprint.Network.AddressBlock
import ClusterBlueprint.Proofs.Text.Trim
import Mathlib.Data.List.Basic
/-!
# Network — blocks are read back from their texts

A block is written as the four parts of its first address and its length.
The parts split again at the dots and the slash, each is read to its value,
and no bit is cleared, because a block starts at a multiple of its size. So
`AddressBlock.read` gives the block back (`read_text`), also when blanks are
trimmed first, of which there are none (`trim_text`).
-/

namespace ClusterBlueprint

namespace AddressBlock

open Text

/-! ## Addresses -/

/-- **A part of an address is read back.** -/
theorem readOctet_toString {n : Nat} (h : n < 256) : readOctet (toString n).toList = some n := by
  have hall : ∀ n < 256, readOctet (toString n).toList = some n := by decide +kernel
  exact hall n h

/-- The characters of an address. -/
theorem toList_addressText (address : Nat) :
    (addressText address).toList =
      (toString (address / 2 ^ 24 % 256)).toList ++ '.' ::
        ((toString (address / 2 ^ 16 % 256)).toList ++ '.' ::
          ((toString (address / 2 ^ 8 % 256)).toList ++ '.' ::
            (toString (address % 256)).toList)) := by
  simp [addressText]

/-- **An address is read back.** -/
theorem readAddress_addressText {address : Nat} (h : address < 2 ^ 32) :
    readAddress (addressText address).toList = some (UInt32.ofNat address) := by
  have hsplit : ∀ (n : Nat) (rest : List Char),
      splitFirst '.' ((toString n).toList ++ '.' :: rest) = some ((toString n).toList, rest) :=
    fun n rest => splitFirst_append (not_mem_toString (by decide)) rest
  have hpart : ∀ n, readOctet (toString (n % 256)).toList = some (n % 256) := fun n =>
    readOctet_toString (Nat.mod_lt n (by decide))
  have hvalue : ((address / 2 ^ 24 % 256 * 256 + address / 2 ^ 16 % 256) * 256 +
      address / 2 ^ 8 % 256) * 256 + address % 256 = address := by omega
  simp only [readAddress, toList_addressText, hsplit, hpart, Option.bind_eq_bind, Option.bind_some,
    hvalue]
  rfl

/-! ## Blocks -/

/-- The characters of a block. -/
theorem toList_text (b : AddressBlock) :
    b.text.toList = (addressText b.base).toList ++ '/' :: (toString b.length).toList := by
  simp [text]

/-- An address is of digits and dots. -/
theorem isDigit_or_dot_of_mem_addressText {address : Nat} {c : Char}
    (h : c ∈ (addressText address).toList) : c.isDigit = true ∨ c = '.' := by
  rw [toList_addressText] at h
  simp only [List.mem_append, List.mem_cons] at h
  rcases h with h | h | h | h | h | h | h
  all_goals first | exact Or.inr h | exact Or.inl (isDigit_of_mem_toString h)

/-- **There is nothing to trim.** -/
theorem trim_text (b : AddressBlock) : trim b.text = b.text := by
  refine trim_eq_self fun c hc => ?_
  rw [toList_text, List.mem_append, List.mem_cons] at hc
  rcases hc with hc | rfl | hc
  · rcases isDigit_or_dot_of_mem_addressText hc with hdigit | rfl
    · exact isGraphic_of_isDigit hdigit
    · decide
  · decide
  · exact isGraphic_of_isDigit (isDigit_of_mem_toString hc)

/-- A block is the one around its first address. -/
theorem ofAddress_base (b : AddressBlock) : ofAddress (UInt32.ofNat b.base) b.length = .ok b := by
  have hbase : (UInt32.ofNat b.base).toNat = b.base := UInt32.toNat_ofNat_of_lt' b.base_lt
  have hmultiple : b.base / 2 ^ (32 - b.length) * 2 ^ (32 - b.length) = b.base :=
    Nat.div_mul_cancel (Nat.dvd_of_mod_eq_zero b.aligned)
  rw [ofAddress, dif_pos b.length_le]
  congr 1
  simp only [around, hbase, hmultiple]

/-- **A block is read back from its text.** -/
theorem read_text (b : AddressBlock) : read b.text = .ok b := by
  have hslash : '/' ∉ (addressText b.base).toList := by
    intro hc
    rcases isDigit_or_dot_of_mem_addressText hc with hdigit | hdot
    · exact absurd hdigit (by decide)
    · exact absurd hdot (by decide)
  have hsplit : splitFirst '/' b.text.toList =
      some ((addressText b.base).toList, (toString b.length).toList) := by
    rw [toList_text]
    exact splitFirst_append hslash _
  have hlength : readUnsigned 256 (toString b.length).toList = some b.length := by
    have hle := b.length_le
    rw [toList_toString_nat]
    exact readUnsigned_toDigits (by omega)
  simp only [read, trim_text, hsplit, readAddress_addressText b.base_lt, hlength]
  exact b.ofAddress_base

end AddressBlock

end ClusterBlueprint
