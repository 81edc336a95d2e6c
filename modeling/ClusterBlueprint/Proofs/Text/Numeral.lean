import ClusterBlueprint.Text.Digits
import Mathlib.Data.List.Induction
/-!
# Text — the spellings of a number

A numeral may have a plus sign and zeros in front, so a number has many
spellings besides the one that is written for it. This file lists them
(`spelling`): they are the texts that are read as the number, all of them
and no others (`readUnsigned_eq_some_iff`).
-/

namespace ClusterBlueprint

namespace Text

variable {cs : List Char} {n bound zeros : Nat} {plus : Bool}

/-- A number with a plus sign, or none, and zeros in front. -/
def spelling (plus : Bool) (zeros n : Nat) : List Char :=
  (if plus then ['+'] else []) ++ List.replicate zeros '0' ++ Nat.toDigits 10 n

/-- A spelling without the sign is digits. -/
theorem isDigit_of_mem_spelling {c : Char} (h : c ∈ spelling false zeros n) : c.isDigit = true := by
  rcases List.mem_append.1 h with hzero | hdigit
  · rw [(List.mem_replicate.1 hzero).2]
    decide
  · exact Nat.isDigit_of_mem_toDigits (by decide) (by decide) hdigit

/-- No other characters are in a spelling than digits and the sign. -/
theorem not_mem_spelling {c : Char} (hplus : c ≠ '+') (hdigit : c.isDigit = false) :
    c ∉ spelling plus zeros n := by
  have hdigits : c ∉ spelling false zeros n := fun h => by
    rw [isDigit_of_mem_spelling h] at hdigit
    cases hdigit
  cases plus
  · exact hdigits
  · exact List.not_mem_cons_of_ne_of_not_mem hplus hdigits

/-- **The plain spelling has nothing in front.** -/
theorem spelling_eq_toDigits_iff :
    spelling plus zeros n = Nat.toDigits 10 n ↔ plus = false ∧ zeros = 0 := by
  rw [spelling, List.append_left_eq_self, List.append_eq_nil_iff, List.replicate_eq_nil_iff]
  cases plus <;> simp

/-- A digit is written for its value. -/
theorem digitChar_toNat {c : Char} (h : c.isDigit = true) :
    Nat.digitChar (c.toNat - '0'.toNat) = c ∧ c.toNat - '0'.toNat < 10 := by
  simp only [Char.isDigit, Bool.and_eq_true, decide_eq_true_eq] at h
  have hlow : 48 ≤ c.toNat := UInt32.le_iff_toNat_le.1 h.1
  have hhigh : c.toNat ≤ 57 := UInt32.le_iff_toNat_le.1 h.2
  have hzero : '0'.toNat = 48 := rfl
  refine ⟨Char.toNat_inj.1 ?_, by omega⟩
  rw [Nat.toNat_digitChar_of_lt_ten (by omega)]
  omega

/-- **Digits are zeros and what is written for their value.** -/
theorem exists_zeros (hne : cs ≠ []) (h : ∀ c ∈ cs, c.isDigit = true) :
    ∃ zeros, cs = List.replicate zeros '0' ++ Nat.toDigits 10 (Nat.ofDigitChars 10 cs 0) := by
  -- the last digit comes off the end, as it does when the value is written
  induction cs using List.reverseRecOn with
  | nil => exact absurd rfl hne
  | append_singleton cs c ih =>
    rw [List.forall_mem_append, List.forall_mem_singleton] at h
    obtain ⟨hcs, hc⟩ := h
    obtain ⟨hchar, hlt⟩ := digitChar_toNat hc
    rw [Nat.ofDigitChars_append, Nat.ofDigitChars_cons, Nat.ofDigitChars_nil]
    generalize c.toNat - '0'.toNat = d at hchar hlt
    have hlast : Nat.toDigits 10 d = [c] := by rw [Nat.toDigits_of_lt_base hlt, hchar]
    rcases eq_or_ne cs [] with rfl | hfirst
    · exact ⟨0, by simpa using hlast.symm⟩
    obtain ⟨zeros, hzeros⟩ := ih hfirst hcs
    rcases Nat.eq_zero_or_pos (Nat.ofDigitChars 10 cs 0) with hzero | hpos
    · refine ⟨zeros + 1, ?_⟩
      rw [hzero] at hzeros
      rw [hzero, Nat.mul_zero, Nat.zero_add, hlast, List.replicate_succ', hzeros]
      rfl
    · exact ⟨zeros, by
        rw [← Nat.toDigits_append_toDigits (by decide) hpos hlt, hlast, ← List.append_assoc,
          ← hzeros]⟩

/-- Digits have the value that they spell. -/
theorem digitsValue?_eq_some_iff :
    digitsValue? cs = some n ↔ ∃ zeros, cs = spelling false zeros n := by
  constructor
  · intro h
    obtain ⟨⟨hne, hall⟩, hvalue⟩ := Option.ite_none_right_eq_some.1 h
    exact Option.some.inj hvalue ▸ exists_zeros hne (List.all_eq_true.1 hall)
  · rintro ⟨zeros, rfl⟩
    have hne : spelling false zeros n ≠ [] := by simp [spelling]
    have hvalue : Nat.ofDigitChars 10 (spelling false zeros n) 0 = n := by
      simp [spelling, Nat.ofDigitChars_append]
    rw [digitsValue?, if_pos ⟨hne, List.all_eq_true.2 fun c => isDigit_of_mem_spelling⟩, hvalue]

/-- **The texts that are read as a number are its spellings**, if it is
below the bound. -/
theorem readUnsigned_eq_some_iff :
    readUnsigned bound cs = some n ↔ n < bound ∧ ∃ plus zeros, cs = spelling plus zeros n := by
  constructor
  · intro h
    unfold readUnsigned at h
    obtain ⟨hvalue, hbound⟩ := Option.filter_eq_some_iff.1 h
    obtain ⟨zeros, hzeros⟩ := digitsValue?_eq_some_iff.1 hvalue
    refine ⟨of_decide_eq_true hbound, ?_⟩
    split at hzeros
    · exact ⟨true, zeros, congrArg ('+' :: ·) hzeros⟩
    · exact ⟨false, zeros, hzeros⟩
  · rintro ⟨hbound, plus, zeros, rfl⟩
    have hvalue : (digitsValue? (spelling false zeros n)).filter (· < bound) = some n := by
      rw [digitsValue?_eq_some_iff.2 ⟨zeros, rfl⟩, Option.filter_some,
        if_pos (decide_eq_true hbound)]
    cases plus
    · rwa [readUnsigned_of_digits fun c => isDigit_of_mem_spelling]
    · exact hvalue

end Text

end ClusterBlueprint
