import ClusterBlueprint.Proofs.Blueprint.PartNames
/-!
# Blueprint — names of two environments

Two claims may differ in nothing but the suffix of their environment, and a
suffix may hold hyphens and the words of stems, so a name could be read
with one suffix in one environment and with another one in the other. Two
facts on the words of stems rule that out: they are a prefix code, and the
word that a stem starts with stands nowhere else in a stem. A name is then
read from the left. The front that it starts with can only end where a stem
starts, so two names that are equal have fronts of one length
(`length_front_le_of_nameOf_eq`), then equal stems, and then equal suffixes
(`suffix_eq_of_nameOf_eq`).
-/

namespace ClusterBlueprint

namespace Part

open Extent Naming

/-- **The words of stems are a prefix code.** -/
theorem eq_of_words_prefix : ∀ p ∈ named, ∀ q ∈ named, p.isVersioned = false →
    q.isVersioned = false → words p.stem <+: words q.stem → p = q := by
  decide +kernel

/-- The words that stems start with. -/
def firstWords : List (List Char) :=
  ["vpc", "igw", "subnet", "route", "security", "sg", "monitoring", "password", "cluster"].map
    String.toList

theorem head_mem_firstWords : ∀ p ∈ named, p.isVersioned = false →
    ∀ w ∈ (words p.stem).head?, w ∈ firstWords := by
  decide +kernel

theorem not_mem_tail_of_firstWords : ∀ p ∈ named, p.isVersioned = false →
    ∀ w ∈ firstWords, w ∉ (words p.stem).tail := by
  decide +kernel

/-- The word that a stem starts with stands nowhere else in a stem. -/
theorem head_not_mem_tail {p q : Part} (hp : p ∈ named) (hq : q ∈ named)
    (hpv : p.isVersioned = false) (hqv : q.isVersioned = false) :
    ∀ w ∈ (words q.stem).head?, w ∉ (words p.stem).tail :=
  fun w hw => not_mem_tail_of_firstWords p hp hpv w (head_mem_firstWords q hq hqv w hw)

end Part

namespace Scheme

open Naming

variable {s s' : Scheme} {p q : Part}

/-- Equal names have fronts of one length. -/
theorem length_front_le_of_nameOf_eq (hs : s.spec.Checked) (hs' : s'.spec.Checked)
    (hclaim : s'.spec.claimName = s.spec.claimName) (hp : p ∈ Extent.named)
    (hq : q ∈ Extent.named) (hpv : p.isVersioned = false) (hqv : q.isVersioned = false)
    (h : s.nameOf p = s'.nameOf q) :
    (front s'.spec.claimName (s'.tailOf q)).length ≤
      (front s.spec.claimName (s.tailOf p)).length := by
  by_contra hlt
  have heq : (s.nameOf p).toList = front s'.spec.claimName (s'.tailOf q) ++
      '-' :: (q.stem ++ '-' :: s'.spec.environmentSuffix.toList) := by
    rw [h, toList_nameOf, ending_of_not_isVersioned hqv]
  have hhead : ∀ w ∈ (words (q.stem ++ '-' :: s'.spec.environmentSuffix.toList)).head?,
      w ∉ (words p.stem).tail := by
    rw [words_append_hyphen, List.head?_append_of_ne_nil _ (words_ne_nil _)]
    exact Part.head_not_mem_tail hp hq hpv hqv
  obtain ⟨-, hsuffix⟩ := suffix_of_length_front_lt hpv heq hhead (Nat.lt_of_not_le hlt)
  -- the second name ends like a suffix, and with so short a tail it was not shortened
  have hfront : front s'.spec.claimName (s'.tailOf q) = s'.spec.claimName.toList := by
    refine front_of_le hs'.claimName.isAscii (isAscii_tailOf hs' hq hqv) ?_
    have hx := hsuffix.length_le
    have hlimit := hs.suffix.length_le
    have hstart := hs'.claimName.length_le
    rw [toList_tailOf, ending_of_not_isVersioned hqv, List.length_cons, longestName]
    omega
  rw [hfront, hclaim] at heq
  rw [hfront, hclaim, front_eq_of_claimName hs hp hpv heq hhead] at hlt
  exact hlt (Nat.le_refl _)

/-- **A name tells the suffix of its environment.** -/
theorem suffix_eq_of_nameOf_eq (hs : s.spec.Checked) (hs' : s'.spec.Checked)
    (hclaim : s'.spec.claimName = s.spec.claimName) (hp : p ∈ Extent.named)
    (hq : q ∈ Extent.named) (hpv : p.isVersioned = false) (hqv : q.isVersioned = false)
    (h : s.nameOf p = s'.nameOf q) :
    p = q ∧ s.spec.environmentSuffix = s'.spec.environmentSuffix := by
  have hlen := Nat.le_antisymm
    (length_front_le_of_nameOf_eq hs' hs hclaim.symm hq hp hqv hpv h.symm)
    (length_front_le_of_nameOf_eq hs hs' hclaim hp hq hpv hqv h)
  have heq := congrArg String.toList h
  rw [toList_nameOf, toList_nameOf, ending_of_not_isVersioned hpv,
    ending_of_not_isVersioned hqv] at heq
  obtain ⟨-, hrest⟩ := List.append_inj heq hlen
  have hrest := (List.cons.inj hrest).2
  have hwords : words p.stem ++ words s.spec.environmentSuffix.toList =
      words q.stem ++ words s'.spec.environmentSuffix.toList := by
    rw [← words_append_hyphen, ← words_append_hyphen, hrest]
  have hpq : p = q := by
    rcases List.prefix_or_prefix_of_prefix (List.prefix_append _ _)
      (hwords ▸ List.prefix_append (words q.stem) _) with hprefix | hprefix
    · exact Part.eq_of_words_prefix p hp q hq hpv hqv hprefix
    · exact (Part.eq_of_words_prefix q hq p hp hqv hpv hprefix).symm
  subst hpq
  refine ⟨rfl, String.toList_inj.1 ?_⟩
  exact (List.cons.inj (List.append_cancel_left hrest)).2

end Scheme

end ClusterBlueprint
