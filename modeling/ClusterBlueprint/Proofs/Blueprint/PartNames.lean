import ClusterBlueprint.Proofs.Blueprint.Part
import ClusterBlueprint.Proofs.Claim.Checked
/-!
# Blueprint — names of parts are distinct

Every name starts with something that stands for the claim's name and goes
on with the stem of its part and an ending, all joined by hyphens. The
environment's suffix is the ending of most parts and may hold hyphens and
words of other stems, so it could pretend to be the end of another kind of
name. It cannot, and this file says why. Two endings of one length leave
the stems to tell names apart, and no stem ends another one
(`eq_of_nameOf_eq`). The ending of a versioned name is two words, and with
the word in front of them it is longer than a suffix may be. Nor can the
claim's name pretend to be more than the start of a name: a name that
starts with all of it was not shortened (`front_eq_of_claimName`).

The arguments use two facts of the settings and the spec only: a digest in
a name has ten digits or more, and the labels of the spec have their limits.
-/

namespace ClusterBlueprint

/-! ## Tails by environment -/

namespace Namer

open Naming

variable {n : Namer} {p : Part} {limit : Nat}

/-- A tail is the stem and the suffix. -/
theorem toList_tail (n : Namer) (p : Part) :
    (n.tail p.kind p.extra).toList = '-' :: (p.stem ++ '-' :: n.suffix.toList) := by
  unfold Part.stem
  cases hextra : p.extra with
  | none => simp [tail]
  | some part => simp [tail]

/-- It may end a label. -/
theorem labelEnd_tail (hs : Label limit n.suffix) (hp : p ∈ Extent.named) :
    LabelEnd (n.tail p.kind p.extra) := by
  have hchars : ∀ c ∈ '-' :: (p.stem ++ ['-']), Rules.isLabelChar c = true := by
    intro c hc
    simp only [List.mem_cons, List.mem_append, List.not_mem_nil, or_false] at hc
    rcases hc with rfl | hc | rfl
    · decide
    · exact Part.isLabelChar_of_mem_stem hp hc
    · decide
  refine hs.labelEnd.append hchars ?_
  rw [toList_tail]
  simp

/-- And leaves room for digits, a hyphen and a letter. -/
theorem length_tail_lt (hs : Label 20 n.suffix) (hp : p ∈ Extent.named) :
    (n.tail p.kind p.extra).toList.length + digestLength + 1 < longestName := by
  have hstem := (Part.stem_bounds p hp).1
  have hsuffix := hs.length_le
  rw [toList_tail, List.length_cons, List.length_append, List.length_cons, digestLength,
    longestName]
  omega

end Namer

namespace Scheme

open Naming

variable {s : Scheme} {p q : Part} {start x : List Char}

/-! ## The name of a part -/

/-- The digits that stand for the content of a part. -/
def digits (s : Scheme) (p : Part) : List Char :=
  (s.namer.contentDigest (s.parameterContent p.kind)).toList

/-- What a name ends in. -/
def ending (s : Scheme) (p : Part) : List Char :=
  if p.isVersioned then s.parameterVersion.toList ++ '-' :: s.digits p
  else s.spec.environmentSuffix.toList

/-- The tail of the name of a part. -/
def tailOf (s : Scheme) (p : Part) : String :=
  if p.isVersioned then
    s.namer.versionedTail p.kind s.parameterVersion (s.parameterContent p.kind)
  else s.namer.tail p.kind p.extra

/-- **The name of a part.** -/
def nameOf (s : Scheme) (p : Part) : String :=
  String.ofList (front s.spec.claimName (s.tailOf p)) ++ s.tailOf p

theorem tailOf_of_not_isVersioned (hp : p.isVersioned = false) :
    s.tailOf p = s.namer.tail p.kind p.extra := by
  simp [tailOf, hp]

/-- A tail is the stem and the ending. -/
theorem toList_tailOf (s : Scheme) (p : Part) :
    (s.tailOf p).toList = '-' :: (p.stem ++ '-' :: s.ending p) := by
  cases hv : p.isVersioned with
  | false =>
    rw [tailOf_of_not_isVersioned hv, Namer.toList_tail, ending, hv]
    rfl
  | true =>
    have hextra : p.extra = none := by cases p <;> first | rfl | cases hv
    unfold tailOf ending Part.stem
    simp [hv, hextra, Namer.versionedTail, digits]

theorem toList_nameOf (s : Scheme) (p : Part) :
    (s.nameOf p).toList =
      front s.spec.claimName (s.tailOf p) ++ '-' :: (p.stem ++ '-' :: s.ending p) := by
  simp [nameOf, toList_tailOf]

/-- The words of a name. -/
theorem words_nameOf (s : Scheme) (p : Part) :
    words (s.nameOf p).toList =
      words (front s.spec.claimName (s.tailOf p)) ++ (words p.stem ++ words (s.ending p)) := by
  rw [toList_nameOf, words_append_hyphen, words_append_hyphen]

/-! ## Endings -/

/-- A digest has as many digits as the settings say, or all of them. -/
theorem length_digits (s : Scheme) (p : Part) :
    (s.digits p).length = min s.config.hashLength 64 := by
  simp [digits, Namer.contentDigest, namer, Namer.of, Sha256.hexOfText, Sha256.length_hexDigest]

theorem hyphen_not_mem_digits (s : Scheme) (p : Part) : '-' ∉ s.digits p := by
  intro h
  simp only [digits, Namer.contentDigest, String.toList_ofList] at h
  exact not_hyphen_of_mem_hexDigits (Sha256.mem_hexDigest (List.mem_of_mem_take h)) rfl

theorem toList_parameterVersion (s : Scheme) :
    s.parameterVersion.toList = 'p' :: 'g' :: (toString s.spec.majorVersion).toList := by
  simp [parameterVersion]

theorem hyphen_not_mem_parameterVersion (s : Scheme) : '-' ∉ s.parameterVersion.toList := by
  rw [toList_parameterVersion]
  simp only [List.mem_cons, hyphen_not_mem_toString, or_false]
  decide

theorem ending_of_isVersioned (hp : p.isVersioned = true) :
    s.ending p = s.parameterVersion.toList ++ '-' :: s.digits p := by
  simp [ending, hp]

theorem ending_of_not_isVersioned (hp : p.isVersioned = false) :
    s.ending p = s.spec.environmentSuffix.toList := by
  simp [ending, hp]

/-- The ending of a versioned name is two words. -/
theorem words_ending (hp : p.isVersioned = true) :
    words (s.ending p) = [s.parameterVersion.toList, s.digits p] := by
  rw [ending_of_isVersioned hp, words_append_hyphen,
    words_of_not_mem s.hyphen_not_mem_parameterVersion,
    words_of_not_mem (s.hyphen_not_mem_digits p)]
  rfl

/-! ## Fronts -/

/-- Tails by environment are ASCII. -/
theorem isAscii_tailOf (hs : s.spec.Checked) (hp : p ∈ Extent.named) (hv : p.isVersioned = false) :
    IsAscii (s.tailOf p).toList := by
  have hsuffix : Label 20 s.namer.suffix := hs.suffix
  rw [tailOf_of_not_isVersioned hv]
  exact (Namer.labelEnd_tail hsuffix hp).isAscii

/-- They leave room for digits, a hyphen and a letter. -/
theorem length_tailOf_lt (hs : s.spec.Checked) (hp : p ∈ Extent.named)
    (hv : p.isVersioned = false) :
    (s.tailOf p).toList.length + digestLength + 1 < longestName := by
  have hsuffix : Label 20 s.namer.suffix := hs.suffix
  rw [tailOf_of_not_isVersioned hv]
  exact Namer.length_tail_lt hsuffix hp

/-- And so the start keeps its length. -/
theorem length_front_tailOf_le (hs : s.spec.Checked) (hp : p ∈ Extent.named)
    (hv : p.isVersioned = false) :
    (front s.spec.claimName (s.tailOf p)).length ≤ s.spec.claimName.toList.length :=
  length_front_le hs.claimName.isAscii (isAscii_tailOf hs hp hv) (length_tailOf_lt hs hp hv).le

/-! ## Where the front of a name ends -/

/-- A text whose first word is in no stem but at its start, behind
something longer than the front of a name, ends the name's suffix. -/
theorem suffix_of_length_front_lt (hv : p.isVersioned = false)
    (h : (s.nameOf p).toList = start ++ '-' :: x)
    (hhead : ∀ w ∈ (words x).head?, w ∉ (words p.stem).tail)
    (hlt : (front s.spec.claimName (s.tailOf p)).length < start.length) :
    (∃ rest, start = front s.spec.claimName (s.tailOf p) ++ '-' :: rest) ∧
      x <:+ s.spec.environmentSuffix.toList := by
  rw [toList_nameOf, ending_of_not_isVersioned hv] at h
  obtain ⟨more, rfl⟩ := List.prefix_of_prefix_length_le (List.prefix_append _ _)
    (h ▸ List.prefix_append start ('-' :: x)) hlt.le
  rw [List.append_assoc, List.append_cancel_left_eq] at h
  cases more with
  | nil => simp at hlt
  | cons c rest =>
    rw [List.cons_append, List.cons_eq_cons] at h
    obtain ⟨rfl, h⟩ := h
    refine ⟨⟨rest, rfl⟩, suffix_of_words_suffix ?_⟩
    have hwords :
        words p.stem ++ words s.spec.environmentSuffix.toList = words rest ++ words x := by
      rw [← words_append_hyphen, ← words_append_hyphen, h]
    -- the first word behind the start is not in the stem, so the stem ends before it
    rcases List.append_eq_append_iff.1 hwords with ⟨ws, -, hsuffix⟩ | ⟨ws, hstem, hx⟩
    · exact hsuffix ▸ List.suffix_append _ _
    · cases ws with
      | nil => exact hx ▸ List.suffix_rfl
      | cons w ws =>
        obtain ⟨v, vs, hrest⟩ := List.exists_cons_of_ne_nil (words_ne_nil rest)
        refine absurd ?_ (hhead w (by rw [hx]; rfl))
        rw [hstem, hrest]
        simp

/-- **Behind the claim's name a name goes on with its stem**: a name that
starts with the whole of the claim's name was not shortened. -/
theorem front_eq_of_claimName (hs : s.spec.Checked) (hp : p ∈ Extent.named)
    (hv : p.isVersioned = false) (h : (s.nameOf p).toList = s.spec.claimName.toList ++ '-' :: x)
    (hhead : ∀ w ∈ (words x).head?, w ∉ (words p.stem).tail) :
    front s.spec.claimName (s.tailOf p) = s.spec.claimName.toList := by
  have hle := length_front_tailOf_le hs hp hv
  rcases Nat.lt_or_eq_of_le hle with hlt | heq
  · obtain ⟨⟨rest, hstart⟩, hsuffix⟩ := suffix_of_length_front_lt hv h hhead hlt
    have hclaim := hs.claimName.length_le
    have hlimit := hs.suffix.length_le
    have hx := hsuffix.length_le
    have hstem := (Part.stem_bounds p hp).1
    have htail : (s.tailOf p).toList.length =
        p.stem.length + s.spec.environmentSuffix.toList.length + 2 := by
      rw [toList_tailOf, ending_of_not_isVersioned hv, List.length_cons, List.length_append,
        List.length_cons]
      omega
    -- the claim's name goes on behind the front, which makes the name a long one
    have hlong := length_of_front_append hs.claimName (isAscii_tailOf hs hp hv)
      (length_tailOf_lt hs hp hv) hstart
    have htotal := congrArg List.length h
    rw [toList_nameOf, ending_of_not_isVersioned hv] at htotal
    simp only [List.length_append, List.length_cons] at htotal
    rw [longestName] at hlong
    omega
  · rw [toList_nameOf] at h
    exact (List.append_inj h heq).1

/-! ## Two names of one length of ending -/

/-- **Names whose endings have one length are told apart by their stems.** -/
theorem eq_of_nameOf_eq (hp : p ∈ Extent.named) (hq : q ∈ Extent.named)
    (hlen : (s.ending p).length = (s.ending q).length) (h : s.nameOf p = s.nameOf q) : p = q := by
  have heq := congrArg String.toList h
  rw [toList_nameOf, toList_nameOf] at heq
  exact Part.eq_of_append_stem hp hq hlen heq

/-! ## A versioned name and another one -/

/-- A versioned name ends in three words that are longer than a suffix. -/
theorem not_suffix_of_isVersioned (hh : 10 ≤ s.config.hashLength) (hs : s.spec.Checked)
    (p : Part) : ¬ ["params".toList, s.parameterVersion.toList, s.digits p] <:+
        words s.spec.environmentSuffix.toList := by
  intro h
  have hwords : words ("params".toList ++ '-' :: (s.parameterVersion.toList ++ '-' :: s.digits p)) =
      ["params".toList, s.parameterVersion.toList, s.digits p] := by
    rw [words_append_hyphen, words_append_hyphen, words_of_not_mem (by decide),
      words_of_not_mem s.hyphen_not_mem_parameterVersion,
      words_of_not_mem (s.hyphen_not_mem_digits p)]
    rfl
  rw [← hwords] at h
  -- `params`, `pg`, a digit or more and ten digits of the digest or more, with two
  -- hyphens between, are over the twenty characters of a suffix
  have hle := (suffix_of_words_suffix h).length_le
  have hsuffix := hs.suffix.length_le
  have hdigits := length_toString_pos s.spec.majorVersion
  simp only [List.length_append, List.length_cons, length_digits, toList_parameterVersion] at hle
  have : "params".toList.length = 6 := by decide
  omega

/-- **No suffix makes a name look versioned.** -/
theorem nameOf_ne_of_isVersioned (hh : 10 ≤ s.config.hashLength) (hs : s.spec.Checked)
    (hp : p ∈ Extent.named) (hq : q ∈ Extent.named) (hpv : p.isVersioned = true)
    (hqv : q.isVersioned = false) : s.nameOf p ≠ s.nameOf q := by
  intro h
  -- both names are read as words from the end, where a versioned one has three
  -- words that are known
  obtain ⟨hlast, hversion⟩ := Part.last_word q hq hqv
  obtain ⟨ws, hws⟩ := List.getLast?_eq_some_iff.1 (Part.last_word_of_isVersioned p hp hpv)
  have heq : words (s.nameOf p).toList = words (s.nameOf q).toList := by rw [h]
  rw [words_nameOf, words_nameOf, words_ending hpv, ending_of_not_isVersioned hqv, hws] at heq
  simp only [← List.append_assoc] at heq
  generalize words (front s.spec.claimName (s.tailOf p)) = xs at heq
  generalize words (front s.spec.claimName (s.tailOf q)) = ys at heq
  have hstem : (ys ++ words q.stem).getLast? = (words q.stem).getLast? :=
    List.getLast?_append_of_ne_nil _ (words_ne_nil q.stem)
  have hthree : ["params".toList, s.parameterVersion.toList, s.digits p] <:+
      ys ++ words q.stem ++ words s.spec.environmentSuffix.toList :=
    heq ▸ ⟨xs ++ ws, by simp⟩
  -- the suffix is at most the two words of the ending, and the word before it is the stem's
  rcases List.suffix_or_suffix_of_suffix hthree (List.suffix_append _ _) with hsuf | hsuf
  · exact not_suffix_of_isVersioned hh hs p hsuf
  rcases List.suffix_cons_iff.1 hsuf with hall | hsuf
  · exact not_suffix_of_isVersioned hh hs p (hall ▸ List.suffix_rfl)
  rcases List.suffix_cons_iff.1 hsuf with htwo | hsuf
  · rw [htwo] at heq
    have hrest := List.append_cancel_right heq
    rw [← hrest] at hstem
    exact hlast (hstem.symm.trans (by simp))
  rcases List.suffix_cons_iff.1 hsuf with hone | hsuf
  · rw [hone, List.append_cons] at heq
    have hrest := List.append_cancel_right heq
    rw [← hrest] at hstem
    refine hversion ?_
    rw [← hstem]
    simp [toList_parameterVersion]
  · exact words_ne_nil _ (List.suffix_nil.1 hsuf)

/-- **Names of parts are distinct.** -/
theorem nameOf_injOn (hh : 10 ≤ s.config.hashLength) (hs : s.spec.Checked)
    (hp : p ∈ Extent.named) (hq : q ∈ Extent.named) (h : s.nameOf p = s.nameOf q) : p = q := by
  cases hpv : p.isVersioned <;> cases hqv : q.isVersioned
  · refine eq_of_nameOf_eq hp hq ?_ h
    rw [ending_of_not_isVersioned hpv, ending_of_not_isVersioned hqv]
  · exact absurd h.symm (nameOf_ne_of_isVersioned hh hs hq hp hqv hpv)
  · exact absurd h (nameOf_ne_of_isVersioned hh hs hp hq hpv hqv)
  · refine eq_of_nameOf_eq hp hq ?_ h
    simp [ending_of_isVersioned hpv, ending_of_isVersioned hqv, length_digits]

end Scheme

end ClusterBlueprint
