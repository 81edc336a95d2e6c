import ClusterBlueprint.Proofs.Naming.Label
import ClusterBlueprint.Proofs.Schedule.WindowText
import ClusterBlueprint.Proofs.Text.Numeral
/-!
# Schedule — the forms of a time

A time of day is documented in one form, two digits, a colon and two digits
(`Clock.Documented`), and that is the form in which it is shown
(`Clock.documented_iff`). More forms are read (`Clock.Spelled`,
`Clock.read_eq_ok_iff`): either number may be of one digit, where blanks
before it fill the five bytes. Without a blank there is nothing to fill them
with but a second digit, so a blank is the only way out of the documented
form (`Clock.Spelled.eq_chars_iff`).
-/

namespace ClusterBlueprint

open Text

/-! ## Numbers -/

namespace Text

variable {cs : List Char} {n : Nat}

/-- What has a value is digits, and at least one. -/
theorem digits_of_digitsValue? (h : digitsValue? cs = some n) :
    cs ≠ [] ∧ ∀ c ∈ cs, c.isDigit = true := by
  obtain ⟨⟨hne, hall⟩, -⟩ := Option.ite_none_right_eq_some.1 h
  exact ⟨hne, List.all_eq_true.1 hall⟩

/-- **Two digits are the ones that are shown for their value.** -/
theorem eq_twoDigits_iff (h : n < 60) :
    cs = twoDigits n ↔ cs.length = 2 ∧ digitsValue? cs = some n := by
  constructor
  · rintro rfl
    exact ⟨by rw [twoDigits_eq h]; rfl, digitsValue?_twoDigits h⟩
  · rintro ⟨hlength, hvalue⟩
    obtain ⟨tens, ones, rfl⟩ := List.length_eq_two.1 hlength
    obtain ⟨-, hdigits⟩ := digits_of_digitsValue? hvalue
    obtain ⟨htens, htensLt⟩ := digitChar_toNat (hdigits tens (by simp))
    obtain ⟨hones, honesLt⟩ := digitChar_toNat (hdigits ones (by simp))
    obtain ⟨-, hsum⟩ := Option.ite_none_right_eq_some.1 hvalue
    have hsum : n = 10 * (tens.toNat - '0'.toNat) + (ones.toNat - '0'.toNat) := by
      simpa [Nat.ofDigitChars_cons, eq_comm] using hsum
    have hdiv : n / 10 = tens.toNat - '0'.toNat := by omega
    have hmod : n % 10 = ones.toNat - '0'.toNat := by omega
    rw [twoDigits_eq h, hdiv, hmod, htens, hones]

end Text

namespace Clock

variable {cs front rest : List Char} {n : Nat} {t : Clock}

/-- The texts that are read as a number: one or two digits after blanks. -/
def SpellsNumber (n : Nat) (cs : List Char) : Prop :=
  ∃ blanks digits, cs = blanks ++ digits ∧ (∀ c ∈ blanks, isBlank c = true) ∧
    digits.length ≤ 2 ∧ digitsValue? digits = some n

/-- A number is made of blanks and digits. -/
theorem SpellsNumber.mem (h : SpellsNumber n cs) {c : Char} (hc : c ∈ cs) :
    isBlank c = true ∨ c.isDigit = true := by
  obtain ⟨blanks, digits, rfl, hblanks, -, hvalue⟩ := h
  rcases List.mem_append.1 hc with hc | hc
  · exact Or.inl (hblanks c hc)
  · exact Or.inr ((digits_of_digitsValue? hvalue).2 c hc)

/-- **A number is read as far as its digits go.** -/
theorem readNumber_append (h : SpellsNumber n front)
    (hrest : ∀ c ∈ rest.head?, c.isDigit = false) :
    readNumber (front ++ rest) = some (n, rest) := by
  obtain ⟨blanks, digits, rfl, hblanks, hlength, hvalue⟩ := h
  obtain ⟨hne, hdigits⟩ := digits_of_digitsValue? hvalue
  have hstart : ((blanks ++ digits) ++ rest).dropWhile isBlank = digits ++ rest := by
    rw [List.append_assoc, List.dropWhile_append_of_pos hblanks]
    refine dropWhile_eq_self fun c hc => ?_
    rw [List.head?_append_of_ne_nil _ hne] at hc
    exact isBlank_of_isGraphic (isGraphic_of_isDigit (hdigits c (List.mem_of_mem_head? hc)))
  have hstop : (rest.take (2 - digits.length)).takeWhile Char.isDigit = [] := by
    cases rest with
    | nil => rw [List.take_nil, List.takeWhile_nil]
    | cons c rest =>
      cases 2 - digits.length with
      | zero => rfl
      | succ k => rw [List.take_succ_cons, List.takeWhile_cons_of_neg (by simp [hrest c rfl])]
  have hend : ((digits ++ rest).take 2).takeWhile Char.isDigit = digits := by
    rw [List.take_append, List.take_of_length_le hlength, List.takeWhile_append_of_pos hdigits,
      hstop, List.append_nil]
  rw [readNumber, hstart]
  simp only [hend, hvalue, Option.map_some, List.drop_left]

/-- And there is no other text before what it leaves. -/
theorem exists_of_readNumber (h : readNumber cs = some (n, rest)) :
    ∃ front, cs = front ++ rest ∧ SpellsNumber n front := by
  unfold readNumber at h
  obtain ⟨value, hvalue, hpair⟩ := Option.map_eq_some_iff.1 h
  obtain ⟨rfl, rfl⟩ := Prod.mk.inj hpair
  generalize htail : cs.dropWhile isBlank = tail at *
  generalize hdigits : (tail.take 2).takeWhile Char.isDigit = digits at *
  have hstart : digits <+: tail.take 2 := hdigits ▸ List.takeWhile_prefix _
  have hsplit : digits ++ tail.drop digits.length = tail :=
    (List.prefix_iff_eq_append.1 (hstart.trans (List.take_prefix _ _)))
  refine ⟨cs.takeWhile isBlank ++ digits, ?_, cs.takeWhile isBlank, digits, rfl,
    fun c hc => List.mem_takeWhile_imp hc, ?_, hvalue⟩
  · rw [List.append_assoc, hsplit, ← htail, List.takeWhile_append_dropWhile]
  · exact hstart.length_le.trans (List.length_take_le _ _)

/-! ## Times of day -/

/-- The documented form of a time: two digits, a colon and two digits. -/
def Documented (t : Clock) (cs : List Char) : Prop :=
  ∃ hour minute, cs = hour ++ ':' :: minute ∧
    (hour.length = 2 ∧ digitsValue? hour = some t.hour.val) ∧
    (minute.length = 2 ∧ digitsValue? minute = some t.minute.val)

/-- The forms that are read as a time: five bytes, with a colon between two
numbers that may have blanks before them. -/
def Spelled (t : Clock) (cs : List Char) : Prop :=
  (String.ofList cs).utf8ByteSize = 5 ∧
    ∃ hour minute, cs = hour ++ ':' :: minute ∧
      SpellsNumber t.hour.val hour ∧ SpellsNumber t.minute.val minute

/-- **A time is shown in the documented form.** -/
theorem documented_iff : t.Documented cs ↔ cs = t.chars := by
  have hhour : t.hour.val < 60 := by omega
  simp only [Documented, ← eq_twoDigits_iff hhour, ← eq_twoDigits_iff t.minute.isLt]
  constructor
  · rintro ⟨_, _, rfl, rfl, rfl⟩
    rfl
  · rintro rfl
    exact ⟨_, _, rfl, rfl, rfl⟩

theorem Documented.isBlank_eq_false (h : t.Documented cs) {c : Char} (hc : c ∈ cs) :
    isBlank c = false := by
  rw [documented_iff.1 h] at hc
  exact isBlank_of_isGraphic (isGraphic_of_mem_chars hc)

/-- What is read in parts is two numbers with a colon between them. -/
theorem readParts_eq_some_iff :
    readParts cs = some t ↔ ∃ hour minute, cs = hour ++ ':' :: minute ∧
      SpellsNumber t.hour.val hour ∧ SpellsNumber t.minute.val minute := by
  constructor
  · intro h
    unfold readParts at h
    split at h
    · next hour rest hhour =>
      split at h
      · next minute hminute =>
        obtain ⟨hrange, ht⟩ := Option.dite_none_right_eq_some.1 h
        obtain rfl := Option.some.inj ht
        obtain ⟨front, rfl, hfront⟩ := exists_of_readNumber hhour
        obtain ⟨back, rfl, hback⟩ := exists_of_readNumber hminute
        exact ⟨front, back, by rw [List.append_nil], hfront, hback⟩
      · cases h
    · cases h
  · rintro ⟨hour, minute, rfl, hhour, hminute⟩
    have hread : readNumber (minute ++ []) = some (t.minute.val, []) :=
      readNumber_append hminute nofun
    rw [List.append_nil] at hread
    have hcolon : ∀ c ∈ (':' :: minute).head?, c.isDigit = false := by
      rintro c ⟨⟩
      decide
    simp only [readParts, readNumber_append hhour hcolon, hread]
    exact dif_pos ⟨t.hour.isLt, t.minute.isLt⟩

/-- **A time is read from its forms and from nothing else.** -/
theorem read_eq_ok_iff : read cs = .ok t ↔ t.Spelled cs := by
  rw [Spelled, ← readParts_eq_some_iff]
  constructor
  · intro h
    unfold read at h
    dsimp only at h
    split at h
    · cases h
    · next hsize =>
      split at h
      · next u hparts =>
        obtain rfl := Except.ok.inj h
        exact ⟨not_not.1 hsize, hparts⟩
      · cases h
  · rintro ⟨hsize, hparts⟩
    rw [read, if_neg (not_not.2 hsize)]
    simp only [hparts]

/-- A form is made of blanks, digits and the colon. -/
theorem Spelled.mem (h : t.Spelled cs) {c : Char} (hc : c ∈ cs) :
    isBlank c = true ∨ c.isDigit = true ∨ c = ':' := by
  obtain ⟨-, hour, minute, rfl, hhour, hminute⟩ := h
  rw [List.mem_append, List.mem_cons] at hc
  rcases hc with hc | rfl | hc
  · exact (hhour.mem hc).imp_right Or.inl
  · exact Or.inr (Or.inr rfl)
  · exact (hminute.mem hc).imp_right Or.inl

/-- No hyphen stands in a form. -/
theorem Spelled.hyphen_not_mem (h : t.Spelled cs) : '-' ∉ cs := by
  intro hc
  rcases h.mem hc with hblank | hdigit | hcolon
  · exact absurd hblank (by decide)
  · exact absurd hdigit (by decide)
  · exact absurd hcolon (by decide)

/-- Without blanks a number is one or two digits, of a byte each. -/
theorem SpellsNumber.digits (h : SpellsNumber n cs) (hblank : ∀ c ∈ cs, isBlank c = false) :
    cs.length ≤ 2 ∧ digitsValue? cs = some n ∧ Naming.IsAscii cs := by
  obtain ⟨blanks, digits, rfl, hblanks, hlength, hvalue⟩ := h
  have hnone : blanks = [] := List.eq_nil_iff_forall_not_mem.2 fun c hc => by
    have hno := hblank c (List.mem_append_left _ hc)
    rw [hblanks c hc] at hno
    cases hno
  subst hnone
  exact ⟨hlength, hvalue, fun c hc => Naming.utf8Size_of_isGraphic
    (isGraphic_of_isDigit ((digits_of_digitsValue? hvalue).2 c hc))⟩

/-- **A form that is not the documented one has a blank.** -/
theorem Spelled.eq_chars_iff (h : t.Spelled cs) :
    cs = t.chars ↔ ∀ c ∈ cs, isBlank c = false := by
  constructor
  · rintro rfl c hc
    exact isBlank_of_isGraphic (isGraphic_of_mem_chars hc)
  · intro hblank
    obtain ⟨hsize, hour, minute, rfl, hhour, hminute⟩ := h
    rw [List.forall_mem_append, List.forall_mem_cons] at hblank
    obtain ⟨hbefore, -, hafter⟩ := hblank
    obtain ⟨hhourLe, hhourValue, hhourAscii⟩ := hhour.digits hbefore
    obtain ⟨hminuteLe, hminuteValue, hminuteAscii⟩ := hminute.digits hafter
    -- five bytes are five characters, and one of them is the colon
    have hascii : Naming.IsAscii (hour ++ ':' :: minute) :=
      Naming.isAscii_append hhourAscii
        (List.forall_mem_cons.2 ⟨by decide, hminuteAscii⟩)
    have hlength : hour.length + (minute.length + 1) = 5 := by
      rw [Naming.utf8ByteSize_of_isAscii (by rwa [String.toList_ofList]), String.toList_ofList,
        List.length_append, List.length_cons] at hsize
      exact hsize
    exact documented_iff.1 ⟨hour, minute, rfl, ⟨by omega, hhourValue⟩, ⟨by omega, hminuteValue⟩⟩

end Clock

end ClusterBlueprint
