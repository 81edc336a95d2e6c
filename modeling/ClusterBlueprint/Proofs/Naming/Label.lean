import ClusterBlueprint.Claim.Rules
import ClusterBlueprint.Proofs.Fallible
import ClusterBlueprint.Proofs.Text.Trim
import Mathlib.Data.String.Basic
/-!
# Naming — labels

The texts that names are put together from have passed `Rules.checkLabel`.
`Label` says what that means for the characters. A label is ASCII, so its
length in bytes is its length in characters and a cut never falls inside a
character, and it starts with a letter, so that no number is a label. What
is put together from the start of a label and the end of another one is a
label again (`label_append`), as long as it is short enough.
-/

namespace ClusterBlueprint

namespace Naming

/-- Every character takes one byte. -/
def IsAscii (cs : List Char) : Prop := ∀ c ∈ cs, c.utf8Size = 1

/-- Decided along the list, since characters could also be tried out one by
one. -/
instance (cs : List Char) : Decidable (IsAscii cs) :=
  decidable_of_iff (cs.all (fun c => c.utf8Size = 1) = true) (by simp [IsAscii])

/-- On ASCII text bytes are characters. -/
theorem utf8ByteSize_of_isAscii {s : String} (h : IsAscii s.toList) :
    s.utf8ByteSize = s.toList.length := by
  rw [← String.utf8Len_toList]
  generalize s.toList = cs at h
  induction cs with
  | nil => rfl
  | cons c cs ih =>
    rw [String.utf8Len_cons, ih fun d hd => h d (by simp [hd]), h c (by simp), List.length_cons]

theorem isAscii_append {cs ds : List Char} (hc : IsAscii cs) (hd : IsAscii ds) :
    IsAscii (cs ++ ds) := by
  intro c h
  rcases List.mem_append.1 h with h | h
  · exact hc c h
  · exact hd c h

/-- The characters that stand below the end of ASCII take one byte. -/
theorem utf8Size_of_le {c : Char} (h : c.toNat ≤ 127) : c.utf8Size = 1 := by
  unfold Char.utf8Size
  have : c.val ≤ 0x7F := by
    rw [UInt32.le_iff_toNat_le]
    exact h
  simp [this]

/-- So do those that leave a mark. -/
theorem utf8Size_of_isGraphic {c : Char} (h : Text.isGraphic c = true) : c.utf8Size = 1 := by
  simp only [Text.isGraphic, Bool.and_eq_true, decide_eq_true_eq] at h
  exact utf8Size_of_le (by omega)

/-- A text that passes as a label of at most `limit` bytes. -/
structure Label (limit : Nat) (s : String) : Prop where
  length_le : s.toList.length ≤ limit
  chars : ∀ c ∈ s.toList, Rules.isLabelChar c = true
  /-- It starts with a letter. -/
  head : ∃ c cs, s.toList = c :: cs ∧ Rules.isLower c = true
  /-- It does not end with a hyphen. -/
  last : s.toList.getLast? ≠ some '-'

/-- The letters, digits and hyphens of labels take one byte each. -/
theorem utf8Size_of_isLabelChar {c : Char} (h : Rules.isLabelChar c = true) : c.utf8Size = 1 := by
  apply utf8Size_of_le
  simp only [Rules.isLabelChar, Rules.isLower, Char.isDigit, Bool.or_eq_true, Bool.and_eq_true,
    decide_eq_true_eq] at h
  rcases h with (⟨-, h⟩ | ⟨-, h⟩) | rfl
  · exact le_trans (UInt32.le_iff_toNat_le.1 h) (by decide)
  · exact le_trans (UInt32.le_iff_toNat_le.1 h) (by decide)
  · decide

/-- **What passes the check of labels is a label.** -/
theorem label_of_checkLabel {field value : String} {limit : Nat}
    (h : Rules.checkLabel field value limit = .ok ()) : Label limit value := by
  unfold Rules.checkLabel at h
  obtain ⟨_, -, h⟩ := Fallible.bind_eq_ok.1 h
  obtain ⟨_, hlen, h⟩ := Fallible.bind_eq_ok.1 h
  cases hfind : value.toList.find? fun c => !Rules.isLabelChar c with
  | some c => simp [hfind, throw, throwThe, MonadExceptOf.throw] at h
  | none =>
    have hchars : ∀ c ∈ value.toList, Rules.isLabelChar c = true := fun c hc => by
      simpa using List.find?_eq_none.1 hfind c hc
    have hascii : IsAscii value.toList := fun c hc => utf8Size_of_isLabelChar (hchars c hc)
    have hbytes : value.utf8ByteSize ≤ limit := of_decide_eq_true (Rules.require_eq_ok_iff.1 hlen)
    have hends : Rules.hasLabelEnds value.toList = true := by
      simpa [hfind, Rules.require_eq_ok_iff] using h
    rw [utf8ByteSize_of_isAscii hascii] at hbytes
    simp only [Rules.hasLabelEnds, Bool.and_eq_true, decide_eq_true_eq] at hends
    refine ⟨hbytes, hchars, ?_, hends.2⟩
    cases hcs : value.toList with
    | nil => simp [hcs] at hends
    | cons c cs => exact ⟨c, cs, rfl, by simpa [hcs] using hends.1⟩

theorem Label.isAscii {limit : Nat} {s : String} (h : Label limit s) : IsAscii s.toList :=
  fun c hc => utf8Size_of_isLabelChar (h.chars c hc)

theorem ne_hyphen_of_isLower {c : Char} (h : Rules.isLower c = true) : c ≠ '-' := by
  rintro rfl
  exact absurd h (by decide)

/-- A label does not start with a hyphen. -/
theorem Label.exists_cons {limit : Nat} {s : String} (h : Label limit s) :
    ∃ c cs, s.toList = c :: cs ∧ c ≠ '-' := by
  obtain ⟨c, cs, hcs, hc⟩ := h.head
  exact ⟨c, cs, hcs, ne_hyphen_of_isLower hc⟩

/-- **Labels are what passes the check of labels**, whichever field it is
made for. -/
theorem checkLabel_eq_ok_iff {field value : String} {limit : Nat} :
    Rules.checkLabel field value limit = .ok () ↔ Label limit value := by
  constructor
  · exact label_of_checkLabel
  · intro h
    obtain ⟨c, cs, hcs, hc⟩ := h.head
    have hne : value ≠ "" := by
      rintro rfl
      cases hcs
    have hbytes : value.utf8ByteSize ≤ limit := by
      rw [utf8ByteSize_of_isAscii h.isAscii]
      exact h.length_le
    have hfind : (value.toList.find? fun c => !Rules.isLabelChar c) = none := by
      refine List.find?_eq_none.2 fun d hd => ?_
      rw [h.chars d hd]
      decide
    have hends : Rules.hasLabelEnds value.toList = true := by
      simp only [Rules.hasLabelEnds, Bool.and_eq_true, decide_eq_true_eq]
      refine ⟨?_, h.last⟩
      rw [hcs]
      exact hc
    unfold Rules.checkLabel
    rw [Rules.require_eq_ok_iff.2 (decide_eq_true hne),
      Rules.require_eq_ok_iff.2 (decide_eq_true hbytes), hfind]
    exact Rules.require_eq_ok_iff.2 hends

/-! ## Labels put together -/

/-- A text that labels may end with. -/
structure LabelEnd (s : String) : Prop where
  chars : ∀ c ∈ s.toList, Rules.isLabelChar c = true
  ne_nil : s.toList ≠ []
  last : s.toList.getLast? ≠ some '-'

theorem LabelEnd.isAscii {s : String} (h : LabelEnd s) : IsAscii s.toList :=
  fun c hc => utf8Size_of_isLabelChar (h.chars c hc)

theorem Label.labelEnd {limit : Nat} {s : String} (h : Label limit s) : LabelEnd s := by
  obtain ⟨c, cs, hcs, -⟩ := h.head
  exact ⟨h.chars, hcs ▸ List.cons_ne_nil c cs, h.last⟩

/-- An end stays one with more in front of it. -/
theorem LabelEnd.append {cs : List Char} {s tail : String} (h : LabelEnd s)
    (hchars : ∀ c ∈ cs, Rules.isLabelChar c = true) (htail : tail.toList = cs ++ s.toList) :
    LabelEnd tail := by
  refine ⟨?_, ?_, ?_⟩
  · rw [htail]
    exact List.forall_mem_append.2 ⟨hchars, h.chars⟩
  · rw [htail]
    exact List.append_ne_nil_of_right_ne_nil _ h.ne_nil
  · rw [htail, List.getLast?_append_of_ne_nil _ h.ne_nil]
    exact h.last

/-- **A start and an end make a label**, if there is room for both. -/
theorem label_append {limit : Nat} {cs : List Char} {tail : String}
    (hhead : ∃ c rest, cs = c :: rest ∧ Rules.isLower c = true)
    (hchars : ∀ c ∈ cs, Rules.isLabelChar c = true) (htail : LabelEnd tail)
    (hlen : cs.length + tail.toList.length ≤ limit) : Label limit (String.ofList cs ++ tail) := by
  have hlist : (String.ofList cs ++ tail).toList = cs ++ tail.toList := by
    rw [String.toList_append, String.toList_ofList]
  have hend : LabelEnd (String.ofList cs ++ tail) := htail.append hchars hlist
  obtain ⟨c, rest, rfl, hc⟩ := hhead
  refine ⟨?_, hend.chars, ⟨c, rest ++ tail.toList, hlist, hc⟩, hend.last⟩
  rw [hlist, List.length_append]
  exact hlen

end Naming

end ClusterBlueprint
