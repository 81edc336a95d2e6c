import ClusterBlueprint.Proofs.Schedule.TimeForms
import ClusterBlueprint.Proofs.Schedule.Week
/-!
# Schedule — the texts that are windows

A window is documented as two times with a hyphen between them, of the day
for backups and of the week, each with its day in front, for maintenance. A
text splits at its first hyphen, and no form of a time has one, so the texts
that are read as windows are the forms of two times around a hyphen, and
again nothing else but those that last too short (`BackupWindow.read_eq_ok_iff`,
`MaintenanceWindow.read_eq_ok_iff`).

The forms of a time are wider than the documented one, and so are those of a
window. A window is shown in the documented form. A text in that form is
shown as it was written, and a text with a blank is read and shown
otherwise (`windows_exact`, `blank_stands_for_digit`).
-/

namespace ClusterBlueprint

open Text

/-- A text of two ends with a hyphen between them. -/
def Ends (opens closes : List Char → Prop) (s : String) : Prop :=
  ∃ before after, s.toList = before ++ '-' :: after ∧ opens before ∧ closes after

namespace Ends

variable {opens closes : List Char → Prop} {s : String}

/-- **The ends are where the text splits**, if the first has no hyphen. -/
theorem iff_split (h : ∀ cs, opens cs → '-' ∉ cs) :
    Ends opens closes s ↔
      ∃ before after, splitFirst '-' s.toList = some (before, after) ∧
        opens before ∧ closes after := by
  constructor
  · rintro ⟨before, after, hs, hopens, hcloses⟩
    exact ⟨before, after, by rw [hs, splitFirst_append (h _ hopens)], hopens, hcloses⟩
  · rintro ⟨before, after, hsplit, hopens, hcloses⟩
    exact ⟨before, after, eq_append_of_splitFirst hsplit, hopens, hcloses⟩

/-- Two ends that are given make one text. -/
theorem eq_iff {before after : List Char} :
    Ends (· = before) (· = after) s ↔ s = String.ofList (before ++ '-' :: after) := by
  rw [← String.toList_inj, String.toList_ofList]
  constructor
  · rintro ⟨_, _, hs, rfl, rfl⟩
    exact hs
  · intro hs
    exact ⟨_, _, hs, rfl, rfl⟩

/-- What holds of the hyphen and of all characters of the ends holds of the
text. -/
theorem forall_mem {p : Char → Prop} (h : Ends opens closes s)
    (hopens : ∀ cs, opens cs → ∀ c ∈ cs, p c) (hhyphen : p '-')
    (hcloses : ∀ cs, closes cs → ∀ c ∈ cs, p c) : ∀ c ∈ s.toList, p c := by
  obtain ⟨before, after, hs, hbefore, hafter⟩ := h
  rw [hs]
  exact List.forall_mem_append.2
    ⟨hopens _ hbefore, List.forall_mem_cons.2 ⟨hhyphen, hcloses _ hafter⟩⟩

/-- **Ends that a blank tells from the given ones** are both as given exactly
when the text has no blank. -/
theorem eq_iff_of_blank {before after : List Char} (h : Ends opens closes s)
    (hbefore : ∀ cs, opens cs → (cs = before ↔ ∀ c ∈ cs, isBlank c = false))
    (hafter : ∀ cs, closes cs → (cs = after ↔ ∀ c ∈ cs, isBlank c = false))
    (hgraphic : ∀ c ∈ before, isGraphic c = true) (hgraphic' : ∀ c ∈ after, isGraphic c = true) :
    String.ofList (before ++ '-' :: after) = s ↔ ∀ c ∈ s.toList, isBlank c = false := by
  constructor
  · intro heq
    have hgiven : Ends (· = before) (· = after) s := eq_iff.2 heq.symm
    refine hgiven.forall_mem ?_ (by decide) ?_
    · rintro _ rfl c hc
      exact isBlank_of_isGraphic (hgraphic c hc)
    · rintro _ rfl c hc
      exact isBlank_of_isGraphic (hgraphic' c hc)
  · intro hblank
    obtain ⟨first, last, hs, hfirst, hlast⟩ := h
    rw [hs, List.forall_mem_append, List.forall_mem_cons] at hblank
    obtain ⟨hno, -, hno'⟩ := hblank
    rw [← (hbefore first hfirst).2 hno, ← (hafter last hlast).2 hno', ← hs, String.ofList_toList]

/-- **Windows that are known by their ends**: some window has a property when
two times that a window can have are in the forms that the property asks
for. -/
theorem exists_iff {W T : Type} {opens closes : W → T} {lasts : T → T → Prop}
    {form : T → List Char → Prop} {p : W → Prop}
    (hlasts : ∀ a b, lasts a b ↔ ∃ w, opens w = a ∧ closes w = b)
    (hp : ∀ w, p w ↔ Ends (form (opens w)) (form (closes w)) s) :
    (∃ w, p w) ↔ ∃ a b, Ends (form a) (form b) s ∧ lasts a b := by
  constructor
  · rintro ⟨w, hw⟩
    exact ⟨_, _, (hp w).1 hw, (hlasts _ _).2 ⟨w, rfl, rfl⟩⟩
  · rintro ⟨_, _, hends, htimes⟩
    obtain ⟨w, rfl, rfl⟩ := (hlasts _ _).1 htimes
    exact ⟨w, (hp w).2 hends⟩

end Ends

/-! ## Times of the week -/

namespace Weekday

variable {cs : List Char} {d : Weekday}

/-- **A day is read from its three letters and from nothing else.** -/
theorem read_eq_ok_iff : read cs = .ok d ↔ cs = d.chars := by
  constructor
  · intro h
    unfold read at h
    split at h
    · next found hfound =>
      obtain rfl := Except.ok.inj h
      have hchars := List.find?_some hfound
      exact (of_decide_eq_true hchars).symm
    · cases h
  · rintro rfl
    exact read_chars d

end Weekday

namespace WeekTime

variable {cs : List Char} {t : WeekTime}

/-- The documented form of a time of the week: the day, a colon and the
documented form of the time. -/
def Documented (t : WeekTime) (cs : List Char) : Prop :=
  ∃ time, cs = t.day.letters.toList ++ ':' :: time ∧ t.clock.Documented time

/-- The forms that are read as a time of the week. -/
def Spelled (t : WeekTime) (cs : List Char) : Prop :=
  ∃ time, cs = t.day.letters.toList ++ ':' :: time ∧ t.clock.Spelled time

/-- A time of the week is shown in the documented form. -/
theorem documented_iff : t.Documented cs ↔ cs = t.chars := by
  simp only [Documented, ← Weekday.chars_eq, Clock.documented_iff, exists_eq_right, chars]

theorem Documented.isBlank_eq_false (h : t.Documented cs) {c : Char} (hc : c ∈ cs) :
    isBlank c = false := by
  rw [documented_iff.1 h] at hc
  exact isBlank_of_isGraphic (isGraphic_of_mem_chars hc)

theorem spelled_iff :
    t.Spelled cs ↔ ∃ time, cs = t.day.chars ++ ':' :: time ∧ t.clock.Spelled time := by
  rw [Spelled, Weekday.chars_eq]

/-- A form of it is a day and a time, and they are where it splits. -/
theorem spelled_iff_split :
    t.Spelled cs ↔ ∃ day time, splitFirst ':' cs = some (day, time) ∧
      Weekday.read day = .ok t.day ∧ Clock.read time = .ok t.clock := by
  simp only [spelled_iff, Weekday.read_eq_ok_iff, Clock.read_eq_ok_iff]
  constructor
  · rintro ⟨time, rfl, htime⟩
    exact ⟨_, time, splitFirst_append t.day.separators_not_mem_chars.1 time, rfl, htime⟩
  · rintro ⟨_, time, hsplit, rfl, htime⟩
    exact ⟨time, eq_append_of_splitFirst hsplit, htime⟩

theorem Spelled.hyphen_not_mem (h : t.Spelled cs) : '-' ∉ cs := by
  obtain ⟨time, rfl, htime⟩ := spelled_iff.1 h
  rw [List.mem_append, List.mem_cons, not_or, not_or]
  exact ⟨t.day.separators_not_mem_chars.2, by decide, htime.hyphen_not_mem⟩

/-- **A form that is not the documented one has a blank**, in its time. -/
theorem Spelled.eq_chars_iff (h : t.Spelled cs) :
    cs = t.chars ↔ ∀ c ∈ cs, isBlank c = false := by
  obtain ⟨time, rfl, htime⟩ := spelled_iff.1 h
  have hday : ∀ c ∈ t.day.chars, isBlank c = false := fun c hc =>
    isBlank_of_isGraphic (Weekday.isGraphic_of_mem_chars hc)
  rw [chars, List.append_cancel_left_eq, List.cons.injEq, htime.eq_chars_iff,
    List.forall_mem_append, List.forall_mem_cons]
  exact ⟨fun htimes => ⟨hday, by decide, htimes.2⟩, fun hall => ⟨rfl, hall.2.2⟩⟩

end WeekTime

/-! ## Windows -/

namespace BackupWindow

variable {s : String} {w : BackupWindow}

/-- **A backup window is read from the forms of its two times.** -/
theorem read_eq_ok_iff : read s = .ok w ↔ Ends w.opens.Spelled w.closes.Spelled s := by
  rw [Ends.iff_split fun _ h => Clock.Spelled.hyphen_not_mem h]
  simp only [← Clock.read_eq_ok_iff]
  constructor
  · intro h
    unfold read at h
    split at h
    · cases h
    · next before after hsplit =>
      obtain ⟨opens, hopens, h⟩ := Fallible.bind_eq_ok.1 h
      obtain ⟨closes, hcloses, h⟩ := Fallible.bind_eq_ok.1 h
      split at h
      · obtain rfl := Except.ok.inj h
        exact ⟨before, after, hsplit, hopens, hcloses⟩
      · cases h
  · rintro ⟨before, after, hsplit, hopens, hcloses⟩
    simp only [read, hsplit, hopens, hcloses, Fallible.ok_bind]
    exact dif_pos w.lasts

/-- A text that is read as a window is shown as it was written exactly when
it has no blank. -/
theorem text_eq_iff (h : read s = .ok w) : w.text = s ↔ ∀ c ∈ s.toList, isBlank c = false := by
  refine Ends.eq_iff_of_blank (read_eq_ok_iff.1 h) ?_ ?_ ?_ ?_
  · exact fun _ hopens => hopens.eq_chars_iff
  · exact fun _ hcloses => hcloses.eq_chars_iff
  · exact fun _ => Clock.isGraphic_of_mem_chars
  · exact fun _ => Clock.isGraphic_of_mem_chars

/-- The documented form of a window is its text. -/
theorem ends_documented_iff :
    Ends w.opens.Documented w.closes.Documented s ↔ w.text = s := by
  simp only [Ends, Clock.documented_iff]
  exact Ends.eq_iff.trans eq_comm

/-- **A window is shown as it was written** when the forms of its times are
the documented ones. -/
theorem shown_iff :
    read s = .ok w ∧ w.text = s ↔ Ends w.opens.Documented w.closes.Documented s := by
  rw [ends_documented_iff]
  exact ⟨And.right, fun htext => ⟨htext ▸ read_text w, htext⟩⟩

/-- There is a window for two times when enough time lies between them. -/
theorem lasts_iff (a b : Clock) :
    30 ≤ (b.minuteOfDay + 1440 - a.minuteOfDay) % 1440 ↔
      ∃ w : BackupWindow, w.opens = a ∧ w.closes = b := by
  constructor
  · intro hlasts
    exact ⟨⟨a, b, hlasts⟩, rfl, rfl⟩
  · rintro ⟨w, rfl, rfl⟩
    exact w.lasts

end BackupWindow

namespace MaintenanceWindow

variable {s : String} {w : MaintenanceWindow}

/-- **A maintenance window is read from the forms of its two times.** -/
theorem read_eq_ok_iff : read s = .ok w ↔ Ends w.opens.Spelled w.closes.Spelled s := by
  rw [Ends.iff_split fun _ h => WeekTime.Spelled.hyphen_not_mem h]
  simp only [WeekTime.spelled_iff_split]
  constructor
  · intro h
    unfold read at h
    split at h
    · cases h
    · next before after hsplit =>
      split at h
      · next openDay openTime closeDay closeTime hopen hclose =>
        obtain ⟨_, hopenDay, h⟩ := Fallible.bind_eq_ok.1 h
        obtain ⟨_, hopenTime, h⟩ := Fallible.bind_eq_ok.1 h
        obtain ⟨_, hcloseDay, h⟩ := Fallible.bind_eq_ok.1 h
        obtain ⟨_, hcloseTime, h⟩ := Fallible.bind_eq_ok.1 h
        dsimp only at h
        split at h
        · obtain rfl := Except.ok.inj h
          exact ⟨before, after, hsplit, ⟨_, _, hopen, hopenDay, hopenTime⟩,
            ⟨_, _, hclose, hcloseDay, hcloseTime⟩⟩
        · cases h
      · cases h
  · rintro ⟨before, after, hsplit, ⟨_, _, hopen, hopenDay, hopenTime⟩,
      ⟨_, _, hclose, hcloseDay, hcloseTime⟩⟩
    simp only [read, hsplit, hopen, hclose, hopenDay, hopenTime, hcloseDay, hcloseTime,
      Fallible.ok_bind]
    exact dif_pos w.lasts

/-- A text that is read as a window is shown as it was written exactly when
it has no blank. -/
theorem text_eq_iff (h : read s = .ok w) : w.text = s ↔ ∀ c ∈ s.toList, isBlank c = false := by
  refine Ends.eq_iff_of_blank (read_eq_ok_iff.1 h) ?_ ?_ ?_ ?_
  · exact fun _ hopens => hopens.eq_chars_iff
  · exact fun _ hcloses => hcloses.eq_chars_iff
  · exact fun _ => WeekTime.isGraphic_of_mem_chars
  · exact fun _ => WeekTime.isGraphic_of_mem_chars

/-- The documented form of a window is its text. -/
theorem ends_documented_iff :
    Ends w.opens.Documented w.closes.Documented s ↔ w.text = s := by
  simp only [Ends, WeekTime.documented_iff]
  exact Ends.eq_iff.trans eq_comm

/-- **A window is shown as it was written** when the forms of its times are
the documented ones. -/
theorem shown_iff :
    read s = .ok w ∧ w.text = s ↔ Ends w.opens.Documented w.closes.Documented s := by
  rw [ends_documented_iff]
  exact ⟨And.right, fun htext => ⟨htext ▸ read_text w, htext⟩⟩

/-- There is a window for two times when enough time lies between them. -/
theorem lasts_iff (a b : WeekTime) :
    30 ≤ (b.minuteOfWeek + 10080 - a.minuteOfWeek) % 10080 ↔
      ∃ w : MaintenanceWindow, w.opens = a ∧ w.closes = b := by
  rw [← WeekTime.minutes_eq, ← WeekTime.minutes_eq]
  constructor
  · intro hlasts
    exact ⟨⟨a, b, hlasts⟩, rfl, rfl⟩
  · rintro ⟨w, rfl, rfl⟩
    exact w.lasts

end MaintenanceWindow

/-- **The texts of windows are exactly these.** A text is read as a window
when its two ends have forms that are read as times and it lasts for thirty
minutes; it is read and shown as it was written when the forms are the
documented ones. What lies between is a blank in the text. -/
theorem windows_exact (s : String) :
    ((∃ w, BackupWindow.read s = .ok w) ↔
      ∃ opens closes : Clock, Ends opens.Spelled closes.Spelled s ∧
        30 ≤ (closes.minuteOfDay + 1440 - opens.minuteOfDay) % 1440) ∧
    ((∃ w, BackupWindow.read s = .ok w ∧ w.text = s) ↔
      ∃ opens closes : Clock, Ends opens.Documented closes.Documented s ∧
        30 ≤ (closes.minuteOfDay + 1440 - opens.minuteOfDay) % 1440) ∧
    (∀ w, BackupWindow.read s = .ok w → (w.text = s ↔ ∀ c ∈ s.toList, isBlank c = false)) ∧
    ((∃ w, MaintenanceWindow.read s = .ok w) ↔
      ∃ opens closes : WeekTime, Ends opens.Spelled closes.Spelled s ∧
        30 ≤ (closes.minuteOfWeek + 10080 - opens.minuteOfWeek) % 10080) ∧
    ((∃ w, MaintenanceWindow.read s = .ok w ∧ w.text = s) ↔
      ∃ opens closes : WeekTime, Ends opens.Documented closes.Documented s ∧
        30 ≤ (closes.minuteOfWeek + 10080 - opens.minuteOfWeek) % 10080) ∧
    ∀ w, MaintenanceWindow.read s = .ok w →
      (w.text = s ↔ ∀ c ∈ s.toList, isBlank c = false) := by
  refine ⟨?_, ?_, fun w => BackupWindow.text_eq_iff, ?_, ?_, fun w => MaintenanceWindow.text_eq_iff⟩
  · exact Ends.exists_iff BackupWindow.lasts_iff fun _ => BackupWindow.read_eq_ok_iff
  · exact Ends.exists_iff BackupWindow.lasts_iff fun _ => BackupWindow.shown_iff
  · exact Ends.exists_iff MaintenanceWindow.lasts_iff fun _ => MaintenanceWindow.read_eq_ok_iff
  · exact Ends.exists_iff MaintenanceWindow.lasts_iff fun _ => MaintenanceWindow.shown_iff

/-- **A blank stands for a digit**: an hour of one digit is read after a
space, which is not in the documented form, and shown in two digits. -/
theorem blank_stands_for_digit :
    ((∃ w, BackupWindow.read " 3:00-04:00" = .ok w ∧ w.text = "03:00-04:00") ∧
      ¬ ∃ opens closes : Clock, Ends opens.Documented closes.Documented " 3:00-04:00") ∧
    ((∃ w, MaintenanceWindow.read "sun: 4:00-sun:05:00" = .ok w ∧
        w.text = "sun:04:00-sun:05:00") ∧
      ¬ ∃ opens closes : WeekTime,
        Ends opens.Documented closes.Documented "sun: 4:00-sun:05:00") := by
  refine ⟨⟨⟨⟨⟨3, 0⟩, ⟨4, 0⟩, by decide⟩, by decide +kernel, by decide +kernel⟩, ?_⟩,
    ⟨⟨⟨⟨.sun, 4, 0⟩, ⟨.sun, 5, 0⟩, by decide⟩, by decide +kernel, by decide +kernel⟩, ?_⟩⟩
  · rintro ⟨opens, closes, h⟩
    have hspace := h.forall_mem (fun _ ho _ => ho.isBlank_eq_false) (by decide)
      (fun _ hc _ => hc.isBlank_eq_false) ' ' (by decide)
    exact absurd hspace (by decide)
  · rintro ⟨opens, closes, h⟩
    have hspace := h.forall_mem (fun _ ho _ => ho.isBlank_eq_false) (by decide)
      (fun _ hc _ => hc.isBlank_eq_false) ' ' (by decide)
    exact absurd hspace (by decide)

end ClusterBlueprint
