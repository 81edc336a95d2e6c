import ClusterBlueprint.Schedule.Window
import Mathlib.Logic.ExistsUnique
/-!
# Schedule — the documented week

What a window means is documented in days, hours and minutes. The week
starts on Monday at 00:00, a day has 1440 minutes and the week has 10080.
This file states those numbers and the letters of the days on their own and
shows that the ones which are computed with agree. Statements about windows
are made in the documented numbers, so they say where in the week a window
lies, whatever is computed. Each minute of the week is that of one day and
one time (`WeekTime.existsUnique_minuteOfWeek`).
-/

namespace ClusterBlueprint

namespace Weekday

/-- How many days of its week come before a day. -/
def placeInWeek : Weekday → Nat
  | .mon => 0 | .tue => 1 | .wed => 2 | .thu => 3 | .fri => 4 | .sat => 5 | .sun => 6

/-- The letters that a day is documented with. -/
def letters : Weekday → String
  | .mon => "mon" | .tue => "tue" | .wed => "wed" | .thu => "thu" | .fri => "fri"
  | .sat => "sat" | .sun => "sun"

theorem index_eq (d : Weekday) : d.index = d.placeInWeek := by cases d <;> rfl

theorem chars_eq (d : Weekday) : d.chars = d.letters.toList := by cases d <;> decide

/-- Each of the seven places is that of one day. -/
theorem existsUnique_placeInWeek {n : Nat} (h : n < 7) : ∃! d : Weekday, d.placeInWeek = n := by
  have hplace : ∃ d : Weekday, d.placeInWeek = n := by
    have hall : ∀ n < 7, ∃ d ∈ all, d.placeInWeek = n := by decide
    obtain ⟨d, -, hd⟩ := hall n h
    exact ⟨d, hd⟩
  obtain ⟨d, rfl⟩ := hplace
  refine ⟨d, rfl, fun other hother => ?_⟩
  cases other <;> cases d <;> first | rfl | cases hother

end Weekday

namespace Clock

/-- The minute of the day that a time is. -/
def minuteOfDay (t : Clock) : Nat := t.hour.val * 60 + t.minute.val

theorem minutes_eq (t : Clock) : t.minutes = t.minuteOfDay := rfl

end Clock

namespace WeekTime

/-- The minute of the week that a day and a time are. -/
def minuteOfWeek (t : WeekTime) : Nat :=
  t.day.placeInWeek * 1440 + t.clock.hour.val * 60 + t.clock.minute.val

theorem minutes_eq (t : WeekTime) : t.minutes = t.minuteOfWeek := by
  rw [minutes, Weekday.index_eq, Clock.minutes, ← Nat.add_assoc]
  rfl

theorem minutes_lt (t : WeekTime) : t.minutes < minutesPerWeek := by
  have hday := t.day.index_lt
  have hclock := t.clock.minutes_lt
  simp only [minutes, minutesPerDay, minutesPerWeek] at hclock ⊢
  omega

/-- **Each minute of the week is that of one day and one time.** -/
theorem existsUnique_minuteOfWeek {t : Nat} (h : t < 10080) :
    ∃! w : WeekTime, w.minuteOfWeek = t := by
  obtain ⟨day, hday, hunique⟩ := Weekday.existsUnique_placeInWeek (show t / 1440 < 7 by omega)
  refine ⟨⟨day, ⟨t % 1440 / 60, by omega⟩, ⟨t % 60, by omega⟩⟩, ?_, ?_⟩
  · simp only [minuteOfWeek, hday]
    omega
  · rintro ⟨other, ⟨hour, hhour⟩, ⟨minute, hminute⟩⟩ hw
    simp only [minuteOfWeek] at hw
    obtain rfl : other = day := hunique other (by dsimp only; omega)
    obtain rfl : hour = t % 1440 / 60 := by omega
    obtain rfl : minute = t % 60 := by omega
    rfl

end WeekTime

end ClusterBlueprint
