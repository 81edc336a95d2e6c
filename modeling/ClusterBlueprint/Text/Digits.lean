/-!
# Text — unsigned decimal numerals

Numerals are read the same way wherever the program meets them: in the
length of an address block, in an engine version and in the environment.
One leading `+` and leading zeros are accepted, a `-` or a blank is not,
and a value that does not fit is an error of the numeral. What core writes
for a number is read back (`readUnsigned_toDigits`).
-/

namespace ClusterBlueprint

namespace Text

/-- The value of a nonempty run of decimal digits. -/
def digitsValue? (cs : List Char) : Option Nat :=
  if cs ≠ [] ∧ cs.all Char.isDigit then some (Nat.ofDigitChars 10 cs 0) else none

/-- The value of a numeral, if it is below `bound`. -/
def readUnsigned (bound : Nat) (cs : List Char) : Option Nat :=
  let digits := match cs with
    | '+' :: rest => rest
    | _ => cs
  (digitsValue? digits).filter (· < bound)

/-- A number in at least two digits, as clocks show it. -/
def twoDigits (n : Nat) : List Char :=
  if n < 10 then ['0', n.digitChar] else Nat.toDigits 10 n

/-- The numeral of a number is its digits. -/
theorem toList_toString_nat (n : Nat) : (toString n).toList = Nat.toDigits 10 n := by
  simp [toString, Nat.repr]

theorem isDigit_of_mem_toString {n : Nat} {c : Char} (h : c ∈ (toString n).toList) :
    c.isDigit = true := by
  rw [toList_toString_nat] at h
  exact Nat.isDigit_of_mem_toDigits (by decide) (by decide) h

/-- A character that is no digit stands in no numeral. -/
theorem not_mem_toString {n : Nat} {c : Char} (h : c.isDigit = false) :
    c ∉ (toString n).toList := by
  intro hc
  rw [isDigit_of_mem_toString hc] at h
  cases h

/-- The digits of a number have the number as their value. -/
theorem digitsValue?_toDigits (n : Nat) : digitsValue? (Nat.toDigits 10 n) = some n := by
  have hall : ∀ c ∈ Nat.toDigits 10 n, c.isDigit = true :=
    fun c hc => Nat.isDigit_of_mem_toDigits (by decide) (by decide) hc
  have hne : Nat.toDigits 10 n ≠ [] := by simp
  simp [digitsValue?, hne, List.all_eq_true.2 hall]

/-- Digits are read without looking for a sign. -/
theorem readUnsigned_of_digits {bound : Nat} {cs : List Char} (h : ∀ c ∈ cs, c.isDigit = true) :
    readUnsigned bound cs = (digitsValue? cs).filter (· < bound) := by
  unfold readUnsigned
  split
  · exact absurd (h '+' List.mem_cons_self) (by decide)
  · rfl

/-- What is written for a number below the bound is read back. -/
theorem readUnsigned_toDigits {bound n : Nat} (hn : n < bound) :
    readUnsigned bound (Nat.toDigits 10 n) = some n := by
  rw [readUnsigned_of_digits fun c => Nat.isDigit_of_mem_toDigits (by decide) (by decide)]
  simp [digitsValue?_toDigits, hn]

end Text

end ClusterBlueprint
