import ClusterBlueprint.Claim.Rules
import ClusterBlueprint.Proofs.Schedule.Week
/-!
# Schedule — when a backup meets maintenance

A window holds the minutes from the one it opens at up to the one it closes
at, on the circle of a day or of a week (`CyclicBetween`), in the documented
numbers (`Clock.minuteOfDay`, `WeekTime.minuteOfWeek`). The overlap of
two windows is decided by a look at where they start: one starts inside the
other. On one circle that is right because, of two intervals that share a
minute, the one that has run longer there held the other's start
(`cyclicOverlap_iff`). A backup window is on the circle of the day, so it is
laid on the week once for each day (`holds_day_iff`). Together they say that
windows overlap exactly when some minute of the week lies in both
(`overlaps_exact`).

Distances on a circle are taken by a subtraction after a whole turn was
added. With a subtraction that has no answer below zero (`subtract?`) every
step still has one.
-/

namespace ClusterBlueprint

variable {period opens closes start t a b : Nat}

/-! ## Intervals on a circle -/

/-- The minutes of a circle from one that is held to one that is not. The
interval wraps when it closes before it opens. -/
def CyclicBetween (opens closes t : Nat) : Prop :=
  if opens ≤ closes then opens ≤ t ∧ t < closes else opens ≤ t ∨ t < closes

/-- The way from one minute of a circle to another, without a remainder. -/
theorem cyclicLength_eq (ha : a < period) (hb : b < period) :
    cyclicLength a b period = if a ≤ b then b - a else b + period - a := by
  unfold cyclicLength
  split
  · have hturn : b + period - a = b - a + period := by omega
    rw [hturn, Nat.add_mod_right, Nat.mod_eq_of_lt (by omega)]
  · exact Nat.mod_eq_of_lt (by omega)

/-- A minute is in an interval when it is reached before the end is. -/
theorem cyclicBetween_iff (ho : opens < period) (hc : closes < period) (ht : t < period) :
    CyclicBetween opens closes t ↔
      cyclicLength opens t period < cyclicLength opens closes period := by
  rw [cyclicLength_eq ho ht, cyclicLength_eq ho hc, CyclicBetween]
  split <;> split <;> omega

/-- **Two intervals of a circle meet when one starts inside the other.** -/
theorem cyclicOverlap_iff {aLength bLength : Nat} (ha : a < period) (hb : b < period)
    (haLength : 0 < aLength) (hbLength : 0 < bLength) :
    cyclicOverlap a aLength b bLength period = true ↔
      ∃ t < period, cyclicLength a t period < aLength ∧ cyclicLength b t period < bLength := by
  have hstarts : cyclicOverlap a aLength b bLength period = true ↔
      cyclicLength a b period < aLength ∨ cyclicLength b a period < bLength := by
    simp only [cyclicOverlap, cyclicLength, Bool.or_eq_true, decide_eq_true_eq,
      Nat.mod_eq_of_lt ha, Nat.mod_eq_of_lt hb]
  rw [hstarts]
  have hself : ∀ {c : Nat}, c < period → cyclicLength c c period = 0 := fun hc => by
    rw [cyclicLength_eq hc hc, if_pos (Nat.le_refl _), Nat.sub_self]
  constructor
  · rintro (hin | hin)
    · exact ⟨b, hb, hin, (hself hb).symm ▸ hbLength⟩
    · exact ⟨a, ha, (hself ha).symm ▸ haLength, hin⟩
  · rintro ⟨t, ht, hat, hbt⟩
    rw [cyclicLength_eq ha ht] at hat
    rw [cyclicLength_eq hb ht] at hbt
    rw [cyclicLength_eq ha hb, cyclicLength_eq hb ha]
    -- the interval that has run longer at `t` held the other's start
    split at hat <;> split at hbt <;> split <;> split <;> omega

/-! ## The two windows -/

namespace BackupWindow

variable (w : BackupWindow)

/-- The minutes of the day that the window holds. -/
def Holds (t : Nat) : Prop := CyclicBetween w.opens.minuteOfDay w.closes.minuteOfDay t

/-- No backup window takes a whole day. -/
theorem length_lt : w.length < minutesPerDay := Nat.mod_lt _ (by decide)

theorem length_pos : 0 < w.length := Nat.lt_of_lt_of_le (by decide) w.lasts

theorem holds_iff (ht : t < minutesPerDay) :
    w.Holds t ↔ cyclicLength w.start t minutesPerDay < w.length := by
  rw [Holds, ← Clock.minutes_eq, ← Clock.minutes_eq]
  exact cyclicBetween_iff w.opens.minutes_lt w.closes.minutes_lt ht

/-- **A minute of the week is in the window of its day** exactly when it is
in the window as one of the seven days lays it on the week. -/
theorem holds_day_iff (ht : t < minutesPerWeek) :
    w.Holds (t % minutesPerDay) ↔
      ∃ day < 7, cyclicLength (day * minutesPerDay + w.start) t minutesPerWeek < w.length := by
  rw [w.holds_iff (Nat.mod_lt _ (by decide))]
  have hstart : w.start < minutesPerDay := w.opens.minutes_lt
  have hlength := w.length_lt
  simp only [cyclicLength, minutesPerDay, minutesPerWeek] at ht hstart hlength ⊢
  constructor
  · intro hin
    -- the day on which the window that holds the minute has opened
    refine ⟨(t + 10080 - (t % 1440 + 1440 - w.start) % 1440) % 10080 / 1440, by omega, by omega⟩
  · rintro ⟨day, hday, hin⟩
    omega

end BackupWindow

namespace MaintenanceWindow

variable (w : MaintenanceWindow) (b : BackupWindow)

/-- The minutes of the week that the window holds. -/
def Holds (t : Nat) : Prop := CyclicBetween w.opens.minuteOfWeek w.closes.minuteOfWeek t

theorem length_pos : 0 < w.length := Nat.lt_of_lt_of_le (by decide) w.lasts

theorem holds_iff (ht : t < minutesPerWeek) :
    w.Holds t ↔ cyclicLength w.start t minutesPerWeek < w.length := by
  rw [Holds, ← WeekTime.minutes_eq, ← WeekTime.minutes_eq]
  exact cyclicBetween_iff w.opens.minutes_lt w.closes.minutes_lt ht

/-- **Windows overlap when some minute of the week is in both.** -/
theorem overlaps_iff :
    w.overlaps b = true ↔ ∃ t < 10080, w.Holds t ∧ b.Holds (t % 1440) := by
  have hday : ∀ day < 7, day * minutesPerDay + b.start < minutesPerWeek := fun day hday => by
    have hstart : b.start < minutesPerDay := b.opens.minutes_lt
    simp only [minutesPerDay, minutesPerWeek] at hstart ⊢
    omega
  have hmeet : w.overlaps b = true ↔ ∃ day < 7, ∃ t < minutesPerWeek,
      cyclicLength w.start t minutesPerWeek < w.length ∧
        cyclicLength (day * minutesPerDay + b.start) t minutesPerWeek < b.length := by
    rw [overlaps, List.any_eq_true]
    simp only [List.mem_range]
    refine exists_congr fun day => and_congr_right fun hlt => ?_
    exact cyclicOverlap_iff w.opens.minutes_lt (hday day hlt) w.length_pos b.length_pos
  rw [hmeet]
  constructor
  · rintro ⟨day, hlt, t, ht, hw, hb⟩
    exact ⟨t, ht, (w.holds_iff ht).2 hw, (b.holds_day_iff ht).2 ⟨day, hlt, hb⟩⟩
  · rintro ⟨t, ht, hw, hb⟩
    obtain ⟨day, hlt, hb⟩ := (b.holds_day_iff ht).1 hb
    exact ⟨day, hlt, t, ht, (w.holds_iff ht).1 hw, hb⟩

end MaintenanceWindow

/-! ## Subtractions that have to have an answer -/

/-- A difference that is not below zero. -/
def subtract? (n m : Nat) : Option Nat := if m ≤ n then some (n - m) else none

theorem subtract?_eq {n m : Nat} (h : m ≤ n) : subtract? n m = some (n - m) := if_pos h

/-- The way from one minute to another. -/
def cyclicLength? (opens closes period : Nat) : Option Nat :=
  (subtract? (closes + period) opens).map (· % period)

/-- Whether one of two intervals starts inside the other. -/
def cyclicOverlap? (aStart aLength bStart bLength period : Nat) : Option Bool := do
  let fromA ← subtract? (bStart + period) (aStart % period)
  let fromB ← subtract? (aStart + period) (bStart % period)
  pure (decide (fromA % period < aLength) || decide (fromB % period < bLength))

/-- A minute of the circle is not later than a whole turn. -/
theorem cyclicLength?_eq (h : opens < period) :
    cyclicLength? opens closes period = some (cyclicLength opens closes period) := by
  rw [cyclicLength?, subtract?_eq (by omega)]
  rfl

theorem cyclicOverlap?_eq {aLength bLength : Nat} (h : 0 < period) :
    cyclicOverlap? a aLength b bLength period =
      some (cyclicOverlap a aLength b bLength period) := by
  have ha := Nat.mod_lt a h
  have hb := Nat.mod_lt b h
  simp only [cyclicOverlap?, subtract?_eq (show a % period ≤ b + period by omega),
    subtract?_eq (show b % period ≤ a + period by omega)]
  rfl

namespace MaintenanceWindow

/-- Whether the backup window of some day meets this window; the lengths are
worked out anew for each day. -/
def overlaps? (w : MaintenanceWindow) (b : BackupWindow) : Option Bool :=
  (List.range 7).anyM fun day => do
    let length ← cyclicLength? w.opens.minutes w.closes.minutes minutesPerWeek
    let backupLength ← cyclicLength? b.opens.minutes b.closes.minutes minutesPerDay
    cyclicOverlap? w.start length (day * minutesPerDay + b.start) backupLength minutesPerWeek

/-- **No subtraction goes below zero.** -/
theorem overlaps?_eq (w : MaintenanceWindow) (b : BackupWindow) :
    w.overlaps? b = some (w.overlaps b) := by
  have hday : ∀ day, (do
      let length ← cyclicLength? w.opens.minutes w.closes.minutes minutesPerWeek
      let backupLength ← cyclicLength? b.opens.minutes b.closes.minutes minutesPerDay
      cyclicOverlap? w.start length (day * minutesPerDay + b.start) backupLength minutesPerWeek) =
      (pure (cyclicOverlap w.start w.length (day * minutesPerDay + b.start) b.length
        minutesPerWeek) : Option Bool) := by
    intro day
    rw [cyclicLength?_eq w.opens.minutes_lt, cyclicLength?_eq b.opens.minutes_lt]
    exact cyclicOverlap?_eq (by decide)
  unfold overlaps? overlaps
  simp only [hday]
  exact List.anyM_pure

/-- **Overlap detection is exact.** Windows overlap when some minute of the
week lies in both, a pair of windows is accepted when none does, and no
subtraction on the way goes below zero. -/
theorem overlaps_exact (w : MaintenanceWindow) (b : BackupWindow) :
    (w.overlaps b = true ↔ ∃ t < 10080, w.Holds t ∧ b.Holds (t % 1440)) ∧
    (Rules.checkWindows b w = .ok () ↔ ∀ t < 10080, w.Holds t → ¬ b.Holds (t % 1440)) ∧
    w.overlaps? b = some (w.overlaps b) := by
  refine ⟨w.overlaps_iff b, ?_, w.overlaps?_eq b⟩
  rw [Rules.checkWindows, Rules.require_eq_ok_iff, Bool.not_eq_true', ← Bool.not_eq_true,
    w.overlaps_iff b]
  constructor
  · intro hnone t ht hw hb
    exact hnone ⟨t, ht, hw, hb⟩
  · rintro hnone ⟨t, ht, hw, hb⟩
    exact hnone t ht hw hb

end MaintenanceWindow

end ClusterBlueprint
