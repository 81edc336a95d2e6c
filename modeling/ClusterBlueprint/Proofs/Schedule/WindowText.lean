import ClusterBlueprint.Proofs.Fallible
import ClusterBlueprint.Proofs.Text.Trim
import ClusterBlueprint.Schedule.Window
/-!
# Schedule — windows are read back from their texts

A clock is shown in two numbers of two digits, so what is shown has its five
bytes and no separator but the colon in the middle; a day is shown in its
three letters. A window is therefore split again where it was put together,
and reading its text gives the window back (`BackupWindow.read_text`,
`MaintenanceWindow.read_text`), with nothing to trim before.
-/

namespace ClusterBlueprint

open Text

/-! ## Two digits -/

namespace Text

/-- What is shown in two digits has two characters. -/
theorem twoDigits_eq {n : Nat} (h : n < 60) :
    twoDigits n = [(n / 10).digitChar, (n % 10).digitChar] := by
  have hall : ∀ n < 60, twoDigits n = [(n / 10).digitChar, (n % 10).digitChar] := by
    decide +kernel
  exact hall n h

/-- And they are digits. -/
theorem isDigit_of_mem_twoDigits {n : Nat} (h : n < 60) {c : Char} (hc : c ∈ twoDigits n) :
    c.isDigit = true := by
  have hall : ∀ n < 60, (twoDigits n).all Char.isDigit = true := by decide +kernel
  exact List.all_eq_true.1 (hall n h) c hc

/-- Whose value is the number. -/
theorem digitsValue?_twoDigits {n : Nat} (h : n < 60) : digitsValue? (twoDigits n) = some n := by
  have hall : ∀ n < 60, digitsValue? (twoDigits n) = some n := by decide +kernel
  exact hall n h

/-- Digits take a byte each. -/
theorem utf8ByteSize_twoDigits {n : Nat} (h : n < 60) :
    (String.ofList (twoDigits n)).utf8ByteSize = 2 := by
  have hall : ∀ n < 60, (String.ofList (twoDigits n)).utf8ByteSize = 2 := by decide +kernel
  exact hall n h

end Text

/-! ## Clocks -/

namespace Clock

/-- **A number in two digits is read back**, whatever follows it. -/
theorem readNumber_twoDigits {n : Nat} (h : n < 60) (rest : List Char) :
    readNumber (twoDigits n ++ rest) = some (n, rest) := by
  have hdigit := fun c => isDigit_of_mem_twoDigits (c := c) h
  have hvalue := digitsValue?_twoDigits h
  rw [twoDigits_eq h] at hdigit hvalue ⊢
  have htens : (n / 10).digitChar.isDigit = true := hdigit _ (by simp)
  have hones : (n % 10).digitChar.isDigit = true := hdigit _ (by simp)
  have hstart : ∀ cs : List Char,
      ((n / 10).digitChar :: cs).dropWhile isBlank = (n / 10).digitChar :: cs := fun cs =>
    List.dropWhile_cons_of_neg (by simp [isBlank_of_isGraphic (isGraphic_of_isDigit htens)])
  simp [readNumber, hstart, htens, hones, hvalue]

/-- **A clock is read back.** -/
theorem read_chars (t : Clock) : read t.chars = .ok t := by
  have hhour : t.hour.val < 60 := by omega
  have hminute : t.minute.val < 60 := t.minute.isLt
  have hsize : (String.ofList t.chars).utf8ByteSize = 5 := by
    have hcolon : (String.ofList [':']).utf8ByteSize = 1 := by decide
    rw [chars, ← List.singleton_append, String.ofList_append, String.ofList_append,
      String.utf8ByteSize_append, String.utf8ByteSize_append, hcolon,
      utf8ByteSize_twoDigits hhour, utf8ByteSize_twoDigits hminute]
  have hparts : readParts t.chars = some t := by
    have hrest := readNumber_twoDigits hminute []
    rw [List.append_nil] at hrest
    simp only [readParts, chars, readNumber_twoDigits hhour, hrest]
    rw [dif_pos ⟨t.hour.isLt, t.minute.isLt⟩]
  simp only [read, hsize, hparts, ne_eq, not_true, if_false]

/-- A clock is of digits and a colon. -/
theorem isDigit_or_colon_of_mem_chars {t : Clock} {c : Char} (h : c ∈ t.chars) :
    c.isDigit = true ∨ c = ':' := by
  rw [chars, List.mem_append, List.mem_cons] at h
  rcases h with hc | rfl | hc
  · exact Or.inl (isDigit_of_mem_twoDigits (by omega) hc)
  · exact Or.inr rfl
  · exact Or.inl (isDigit_of_mem_twoDigits t.minute.isLt hc)

theorem isGraphic_of_mem_chars {t : Clock} {c : Char} (h : c ∈ t.chars) :
    isGraphic c = true := by
  rcases isDigit_or_colon_of_mem_chars h with hdigit | rfl
  · exact isGraphic_of_isDigit hdigit
  · decide

/-- No hyphen stands in a clock. -/
theorem hyphen_not_mem_chars (t : Clock) : '-' ∉ t.chars := by
  intro h
  rcases isDigit_or_colon_of_mem_chars h with hdigit | hcolon
  · exact absurd hdigit (by decide)
  · exact absurd hcolon (by decide)

end Clock

/-! ## Days -/

namespace Weekday

/-- **A day is read back.** -/
theorem read_chars (d : Weekday) : read d.chars = .ok d := by cases d <;> decide

theorem isGraphic_of_mem_chars {d : Weekday} {c : Char} (h : c ∈ d.chars) :
    isGraphic c = true := by
  have hall : d.chars.all isGraphic = true := by cases d <;> decide
  exact List.all_eq_true.1 hall c h

/-- No separator stands in a day. -/
theorem separators_not_mem_chars (d : Weekday) : ':' ∉ d.chars ∧ '-' ∉ d.chars := by
  cases d <;> decide

end Weekday

namespace WeekTime

/-- A time of the week splits at its first colon. -/
theorem splitFirst_chars (t : WeekTime) :
    splitFirst ':' t.chars = some (t.day.chars, t.clock.chars) :=
  splitFirst_append t.day.separators_not_mem_chars.1 _

theorem isGraphic_of_mem_chars {t : WeekTime} {c : Char} (h : c ∈ t.chars) :
    isGraphic c = true := by
  rw [chars, List.mem_append, List.mem_cons] at h
  rcases h with hc | rfl | hc
  · exact Weekday.isGraphic_of_mem_chars hc
  · decide
  · exact Clock.isGraphic_of_mem_chars hc

/-- No hyphen stands in a time of the week. -/
theorem hyphen_not_mem_chars (t : WeekTime) : '-' ∉ t.chars := by
  rw [chars, List.mem_append, List.mem_cons, not_or, not_or]
  exact ⟨t.day.separators_not_mem_chars.2, by decide, t.clock.hyphen_not_mem_chars⟩

end WeekTime

/-! ## Windows -/

/-- Two ends split at the hyphen between them. -/
theorem splitFirst_ends {opens : List Char} (hopens : '-' ∉ opens) (closes : List Char) :
    splitFirst '-' (String.ofList (opens ++ '-' :: closes)).toList = some (opens, closes) := by
  rw [String.toList_ofList]
  exact splitFirst_append hopens closes

/-- And have nothing to trim. -/
theorem trim_ends {opens closes : List Char} (hopens : ∀ c ∈ opens, isGraphic c = true)
    (hcloses : ∀ c ∈ closes, isGraphic c = true) :
    trim (String.ofList (opens ++ '-' :: closes)) = String.ofList (opens ++ '-' :: closes) := by
  refine trim_eq_self fun c hc => ?_
  rw [String.toList_ofList, List.mem_append, List.mem_cons] at hc
  rcases hc with hc | rfl | hc
  · exact hopens c hc
  · decide
  · exact hcloses c hc

namespace BackupWindow

/-- There is nothing to trim. -/
theorem trim_text (w : BackupWindow) : trim w.text = w.text :=
  trim_ends (fun _ => Clock.isGraphic_of_mem_chars) fun _ => Clock.isGraphic_of_mem_chars

/-- **A backup window is read back from its text.** -/
theorem read_text (w : BackupWindow) : read w.text = .ok w := by
  have hsplit : splitFirst '-' w.text.toList = some (w.opens.chars, w.closes.chars) :=
    splitFirst_ends w.opens.hyphen_not_mem_chars _
  simp only [read, hsplit, Clock.read_chars, Fallible.ok_bind]
  exact dif_pos w.lasts

end BackupWindow

namespace MaintenanceWindow

/-- There is nothing to trim. -/
theorem trim_text (w : MaintenanceWindow) : trim w.text = w.text :=
  trim_ends (fun _ => WeekTime.isGraphic_of_mem_chars) fun _ => WeekTime.isGraphic_of_mem_chars

/-- **A maintenance window is read back from its text.** -/
theorem read_text (w : MaintenanceWindow) : read w.text = .ok w := by
  have hsplit : splitFirst '-' w.text.toList = some (w.opens.chars, w.closes.chars) :=
    splitFirst_ends w.opens.hyphen_not_mem_chars _
  simp only [read, hsplit, WeekTime.splitFirst_chars, Weekday.read_chars, Clock.read_chars,
    Fallible.ok_bind]
  exact dif_pos w.lasts

end MaintenanceWindow

end ClusterBlueprint
