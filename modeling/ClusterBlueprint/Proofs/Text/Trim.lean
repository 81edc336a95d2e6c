import ClusterBlueprint.Text.Blank
import Mathlib.Data.List.Basic
import Mathlib.Data.List.TakeWhile
/-!
# Text — what trimming leaves

Trimming takes the blanks off both ends. What is left has none there, so
trimming it again changes nothing (`trim_trim`), and a text of graphic
characters, which are no blanks, is left as it is (`trim_eq_self`). What is
taken off is blank and stood at the ends (`exists_blanks`).
-/

namespace ClusterBlueprint

namespace Text

variable {p : Char → Bool} {cs : List Char}

/-- A list that does not start with a blank keeps its start. -/
theorem dropWhile_eq_self (h : ∀ c ∈ cs.head?, p c = false) : cs.dropWhile p = cs := by
  cases cs with
  | nil => rfl
  | cons c cs => exact List.dropWhile_cons_of_neg (by simp [h c rfl])

/-- What is left of a list does not start with a blank. -/
theorem not_of_mem_head?_dropWhile : ∀ c ∈ (cs.dropWhile p).head?, p c = false := by
  intro c hc
  have := List.head?_dropWhile_not p cs
  rw [Option.mem_def.1 hc] at this
  simpa using this

/-- A list that has lost its end is an initial piece. -/
theorem prefix_dropEndWhile (p : Char → Bool) (cs : List Char) : dropEndWhile p cs <+: cs := by
  rw [dropEndWhile, ← List.reverse_suffix, List.reverse_reverse]
  exact List.dropWhile_suffix _

/-- What is left of a list does not end with a blank. -/
theorem not_of_mem_getLast?_dropEndWhile : ∀ c ∈ (dropEndWhile p cs).getLast?, p c = false := by
  intro c hc
  rw [dropEndWhile, List.getLast?_reverse] at hc
  exact not_of_mem_head?_dropWhile c hc

/-- A list that does not end with a blank keeps its end. -/
theorem dropEndWhile_eq_self (h : ∀ c ∈ cs.getLast?, p c = false) : dropEndWhile p cs = cs := by
  rw [dropEndWhile, dropWhile_eq_self, List.reverse_reverse]
  intro c hc
  rw [List.head?_reverse] at hc
  exact h c hc

/-- **A text without blanks at its ends is trimmed to itself.** -/
theorem trim_eq_self_of_ends {s : String} (hhead : ∀ c ∈ s.toList.head?, isBlank c = false)
    (hlast : ∀ c ∈ s.toList.getLast?, isBlank c = false) : trim s = s := by
  rw [trim, dropWhile_eq_self hhead, dropEndWhile_eq_self hlast, String.ofList_toList]

/-- The ASCII characters that leave a mark: letters, digits and
punctuation. -/
def isGraphic (c : Char) : Bool := 0x21 ≤ c.toNat && c.toNat ≤ 0x7E

/-- What leaves a mark is no blank. -/
theorem isBlank_of_isGraphic {c : Char} (h : isGraphic c = true) : isBlank c = false := by
  simp only [isGraphic, Bool.and_eq_true, decide_eq_true_eq] at h
  simp only [isBlank, Bool.or_eq_false_iff, Bool.and_eq_false_iff, decide_eq_false_iff_not,
    beq_eq_false_iff_ne]
  omega

/-- Digits leave a mark. -/
theorem isGraphic_of_isDigit {c : Char} (h : c.isDigit = true) : isGraphic c = true := by
  simp only [Char.isDigit, Bool.and_eq_true, decide_eq_true_eq] at h
  have hlow : 0x30 ≤ c.toNat := UInt32.le_iff_toNat_le.1 h.1
  have hhigh : c.toNat ≤ 0x39 := UInt32.le_iff_toNat_le.1 h.2
  simp only [isGraphic, Bool.and_eq_true, decide_eq_true_eq]
  omega

/-- **A text of graphic characters is trimmed to itself.** -/
theorem trim_eq_self {s : String} (h : ∀ c ∈ s.toList, isGraphic c = true) : trim s = s :=
  trim_eq_self_of_ends (fun c hc => isBlank_of_isGraphic (h c (List.mem_of_mem_head? hc)))
    fun c hc => isBlank_of_isGraphic (h c (List.mem_of_getLast? hc))

/-- **A trimmed text is trimmed to itself.** -/
theorem trim_trim (s : String) : trim (trim s) = trim s := by
  refine trim_eq_self_of_ends ?_ ?_
  · rw [trim, String.toList_ofList]
    -- the end is taken off what is left of the start, which keeps its first character
    intro c hc
    obtain ⟨rest, hrest⟩ := prefix_dropEndWhile isBlank (s.toList.dropWhile isBlank)
    have hhead : c ∈ (s.toList.dropWhile isBlank).head? := by
      rw [← hrest, List.head?_append, Option.mem_def.1 hc]
      rfl
    exact not_of_mem_head?_dropWhile c hhead
  · rw [trim, String.toList_ofList]
    exact not_of_mem_getLast?_dropEndWhile

/-- What a list loses at its end is blank. -/
theorem exists_dropEndWhile (p : Char → Bool) (cs : List Char) :
    ∃ back, cs = dropEndWhile p cs ++ back ∧ ∀ c ∈ back, p c = true := by
  refine ⟨(cs.reverse.takeWhile p).reverse, ?_, fun c hc => ?_⟩
  · rw [dropEndWhile, ← List.reverse_append, List.takeWhile_append_dropWhile, List.reverse_reverse]
  · exact List.mem_takeWhile_imp (List.mem_reverse.1 hc)

/-- **Trimming takes off blanks, and only at the ends.** -/
theorem exists_blanks (s : String) :
    ∃ front back, s.toList = front ++ (trim s).toList ++ back ∧
      (∀ c ∈ front, isBlank c = true) ∧ ∀ c ∈ back, isBlank c = true := by
  obtain ⟨back, hback, hblank⟩ := exists_dropEndWhile isBlank (s.toList.dropWhile isBlank)
  refine ⟨s.toList.takeWhile isBlank, back, ?_, fun c hc => List.mem_takeWhile_imp hc, hblank⟩
  rw [trim, String.toList_ofList, List.append_assoc, ← hback, List.takeWhile_append_dropWhile]

end Text

end ClusterBlueprint
