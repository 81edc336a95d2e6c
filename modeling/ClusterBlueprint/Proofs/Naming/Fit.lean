import ClusterBlueprint.Naming
import ClusterBlueprint.Proofs.Naming.Label
import ClusterBlueprint.Proofs.Naming.Words
import ClusterBlueprint.Proofs.Text.Trim
/-!
# Naming — how names fit

A name that is too long loses the end of its start, and a member's name the
end of its cluster's. On ASCII text both functions answer with a name, and
this file says which: what is kept of the start (`front`, `memberStart`)
and the tail behind it, untouched. A front is never longer than the start
it stands for (`length_front_le`) and begins with the same letter
(`head?_front`), and a cut loses nothing but hyphens in front of the place
where it falls (`length_trimmed_take`).
-/

namespace ClusterBlueprint

namespace Naming

variable {cs ds : List Char}

/-! ## Hyphens at the end -/

/-- A text without the hyphens at its end. -/
def trimmed (cs : List Char) : List Char := Text.dropEndWhile (· = '-') cs

/-- A text that does not end with a hyphen loses nothing. -/
theorem trimmed_eq_self (h : cs.getLast? ≠ some '-') : trimmed cs = cs := by
  refine Text.dropEndWhile_eq_self fun c hc => decide_eq_false fun heq => ?_
  exact h (heq ▸ hc)

/-- Nothing in front of a character that is no hyphen is lost. -/
theorem trimmed_append_cons {c : Char} (hc : c ≠ '-') :
    trimmed (cs ++ c :: ds) = cs ++ c :: trimmed ds := by
  have hstop : (c :: cs.reverse).dropWhile (fun d => decide (d = '-')) = c :: cs.reverse := by
    simp [hc]
  have hrev : (cs ++ c :: ds).reverse = ds.reverse ++ c :: cs.reverse := by simp
  unfold trimmed Text.dropEndWhile
  rw [hrev, List.dropWhile_append, hstop]
  split
  · next h => simp [List.isEmpty_iff.1 h]
  · simp

theorem trimmed_cons {c : Char} (hc : c ≠ '-') : trimmed (c :: ds) = c :: trimmed ds :=
  @trimmed_append_cons [] ds c hc

/-- What is left is an initial piece. -/
theorem prefix_trimmed (cs : List Char) : trimmed cs <+: cs := Text.prefix_dropEndWhile _ cs

theorem length_trimmed_le (cs : List Char) : (trimmed cs).length ≤ cs.length :=
  (prefix_trimmed cs).length_le

/-- **A cut reaches to its last character that is no hyphen.** -/
theorem length_trimmed_take {c : Char} {n : Nat} (hc : c ≠ '-') (hn : cs.length < n) :
    cs.length < (trimmed ((cs ++ c :: ds).take n)).length := by
  obtain ⟨m, rfl⟩ : ∃ m, n = cs.length + (m + 1) := ⟨n - cs.length - 1, by omega⟩
  rw [List.take_length_add_append, List.take_succ_cons, trimmed_append_cons hc]
  simp

/-- **A cut keeps the first letter of a label.** -/
theorem exists_trimmed_take {s : String} {limit n : Nat} (hs : Label limit s) (hn : 0 < n) :
    ∃ c rest, trimmed (s.toList.take n) = c :: rest ∧ s.toList.head? = some c ∧
      Rules.isLower c = true := by
  obtain ⟨c, cs, hcs, hlower⟩ := hs.head
  obtain ⟨m, rfl⟩ : ∃ m, n = m + 1 := ⟨n - 1, by omega⟩
  refine ⟨c, trimmed (cs.take m), ?_, by rw [hcs]; rfl, hlower⟩
  rw [hcs, List.take_succ_cons, trimmed_cons (ne_hyphen_of_isLower hlower)]

/-- What is left of a text, and the hyphens that it lost. -/
theorem exists_trimmed (cs : List Char) :
    (trimmed cs).getLast? ≠ some '-' ∧
      ∃ hyphens, cs = trimmed cs ++ List.replicate hyphens '-' := by
  constructor
  · intro h
    have hlast := Text.not_of_mem_getLast?_dropEndWhile (p := (· = '-')) '-' h
    exact absurd hlast (by decide)
  · obtain ⟨back, hback, hall⟩ := Text.exists_dropEndWhile (· = '-') cs
    refine ⟨back.length, hback.trans (congrArg (trimmed cs ++ ·) ?_)⟩
    exact List.eq_replicate_iff.2 ⟨rfl, fun c hc => of_decide_eq_true (hall c hc)⟩

/-! ## Cuts on ASCII text -/

/-- A cut of an ASCII text counts its characters. -/
theorem cut?_eq {s : String} (h : IsAscii s.toList) (n : Nat) :
    cut? n s = some (trimmed (s.toList.take n)) := by
  unfold cut?
  rw [utf8ByteSize_of_isAscii h,
    Text.takeBytes?_of_ascii h (Nat.min_le_right _ _), ← List.take_eq_take_min]
  rfl

/-! ## Digests -/

theorem not_hyphen_of_mem_hexDigits {c : Char} (h : c ∈ Sha256.hexDigits) : c ≠ '-' := by
  rintro rfl
  exact absurd h (by decide)

theorem isAscii_of_subset_hexDigits {cs : List Char} (h : cs ⊆ Sha256.hexDigits) : IsAscii cs := by
  have hdigits : IsAscii Sha256.hexDigits := by decide
  exact fun c hc => hdigits c (h hc)

/-- The digits that stand in for the end of a start. -/
theorem length_shortDigest (name : String) :
    (shortDigest name).toList.length = digestLength := by
  simp [shortDigest, Sha256.hexOfText, Sha256.length_hexDigest, digestLength]

theorem mem_shortDigest {name : String} {c : Char} (h : c ∈ (shortDigest name).toList) :
    c ∈ Sha256.hexDigits := by
  rw [shortDigest, String.toList_ofList] at h
  exact Sha256.mem_hexDigest (List.mem_of_mem_take h)

/-! ## Names -/

/-- What stands before the tail in a name. -/
def front (start tail : String) : List Char :=
  if (start ++ tail).utf8ByteSize ≤ longestName then start.toList
  else
    let kept := trimmed (start.toList.take
      (longestName - (tail.utf8ByteSize + digestLength + 1)))
    if kept = [] then (shortDigest (start ++ tail)).toList
    else kept ++ '-' :: (shortDigest (start ++ tail)).toList

/-- **A start and a tail always fit into a name**: the front that the start
leaves, and the tail. -/
theorem fit?_eq {start tail : String} (h : IsAscii start.toList) :
    fit? start tail = some (String.ofList (front start tail) ++ tail) := by
  simp only [fit?, front, cut?_eq h, Option.map_some, join]
  split
  · rw [String.ofList_toList]
  · split
    · rw [String.ofList_toList]
    · next hk =>
      rw [String.ofList_append, String.ofList_cons, String.ofList_toList]
      simp only [String.append_assoc]
      rfl

/-- **A front is not longer than its start**, when the tail leaves room for
the digits. -/
theorem length_front_le {start tail : String} (hs : IsAscii start.toList)
    (ht : IsAscii tail.toList) (h : tail.toList.length + digestLength + 1 ≤ longestName) :
    (front start tail).length ≤ start.toList.length := by
  unfold front
  split
  · exact Nat.le_refl _
  · next hlong =>
    rw [String.utf8ByteSize_append, utf8ByteSize_of_isAscii hs, utf8ByteSize_of_isAscii ht]
      at hlong
    rw [utf8ByteSize_of_isAscii ht]
    have hkept := length_trimmed_le (start.toList.take
      (longestName - (tail.toList.length + digestLength + 1)))
    rw [List.length_take] at hkept
    simp only
    split
    · rw [length_shortDigest]
      omega
    · rw [List.length_append, List.length_cons, length_shortDigest]
      omega

/-- A name that is short enough keeps its start. -/
theorem front_of_le {start tail : String} (hs : IsAscii start.toList) (ht : IsAscii tail.toList)
    (h : start.toList.length + tail.toList.length ≤ longestName) :
    front start tail = start.toList := by
  unfold front
  rw [String.utf8ByteSize_append, utf8ByteSize_of_isAscii hs, utf8ByteSize_of_isAscii ht,
    if_pos h]

/-- **A name that is too long has its start cut**, with the digits behind. -/
theorem front_of_lt {start tail : String} {limit : Nat} (hs : Label limit start)
    (ht : IsAscii tail.toList) (hroom : tail.toList.length + digestLength + 1 < longestName)
    (h : longestName < start.toList.length + tail.toList.length) :
    front start tail =
      trimmed (start.toList.take (longestName - (tail.toList.length + digestLength + 1))) ++
        '-' :: (shortDigest (start ++ tail)).toList := by
  -- the first letter is in what is kept, so there is something in front of the digits
  obtain ⟨c, rest, hkept, -⟩ := exists_trimmed_take hs (Nat.sub_pos_of_lt hroom)
  unfold front
  rw [String.utf8ByteSize_append, utf8ByteSize_of_isAscii hs.isAscii, utf8ByteSize_of_isAscii ht,
    if_neg (by omega), hkept, if_neg (List.cons_ne_nil c rest)]

/-- **A front starts as its start does**, when the tail leaves room for a
letter. -/
theorem head?_front {start tail : String} {limit : Nat} (hs : Label limit start)
    (ht : IsAscii tail.toList) (hroom : tail.toList.length + digestLength + 1 < longestName) :
    (front start tail).head? = start.toList.head? := by
  rcases Nat.lt_or_ge longestName (start.toList.length + tail.toList.length) with hlong | hle
  · obtain ⟨c, rest, hkept, hhead, -⟩ := exists_trimmed_take hs (Nat.sub_pos_of_lt hroom)
    rw [front_of_lt hs ht hroom hlong, hkept, hhead]
    rfl
  · rw [front_of_le hs.isAscii ht hle]

/-- **A start that goes on after its own front leaves the name its
length**: the digits in it stop the cut from losing more than one hyphen. -/
theorem length_of_front_append {start tail : String} {limit : Nat} (hs : Label limit start)
    (ht : IsAscii tail.toList) (hroom : tail.toList.length + digestLength + 1 < longestName)
    {rest : List Char} (h : start.toList = front start tail ++ '-' :: rest) :
    longestName ≤ (front start tail).length + tail.toList.length + 1 := by
  have hlong : longestName < start.toList.length + tail.toList.length := by
    by_contra hle
    have hlen := congrArg List.length h
    rw [front_of_le hs.isAscii ht (by omega), List.length_append, List.length_cons] at hlen
    omega
  have hfront := front_of_lt hs ht hroom hlong
  have height := length_shortDigest (start ++ tail)
  have hhex : ∀ c ∈ (shortDigest (start ++ tail)).toList, c ≠ '-' := fun c hc =>
    not_hyphen_of_mem_hexDigits (mem_shortDigest hc)
  generalize (shortDigest (start ++ tail)).toList = digits at hfront height hhex
  generalize hkept : trimmed (start.toList.take
    (longestName - (tail.toList.length + digestLength + 1))) = kept at hfront
  cases digits with
  | nil => cases height
  | cons d ds =>
    have hstart : start.toList = (kept ++ ['-']) ++ d :: (ds ++ '-' :: rest) := by
      rw [h, hfront]
      simp
    have hlen : (front start tail).length = kept.length + 9 := by
      rw [hfront, List.length_append, List.length_cons, height]
      rfl
    have hcut : longestName - (tail.toList.length + digestLength + 1) ≤ (kept ++ ['-']).length := by
      by_contra hlt
      have hkeeps : (kept ++ ['-']).length <
          (trimmed (((kept ++ ['-']) ++ d :: (ds ++ '-' :: rest)).take
            (longestName - (tail.toList.length + digestLength + 1)))).length :=
        length_trimmed_take (hhex d (by simp)) (Nat.lt_of_not_le hlt)
      rw [← hstart, hkept, List.length_append] at hkeeps
      omega
    have hdigest : digestLength = 8 := rfl
    rw [List.length_append, List.length_singleton] at hcut
    omega

/-! ## Characters of names -/

/-- **A front is made of its start, digits and a hyphen.** -/
theorem mem_front {start tail : String} {c : Char} (h : c ∈ front start tail) :
    c ∈ start.toList ∨ c = '-' ∨ c ∈ Sha256.hexDigits := by
  unfold front at h
  split at h
  · exact Or.inl h
  simp only at h
  split at h
  · exact Or.inr (Or.inr (mem_shortDigest h))
  rcases List.mem_append.1 h with h | h
  · exact Or.inl (List.mem_of_mem_take ((prefix_trimmed _).subset h))
  rcases List.mem_cons.1 h with h | h
  · exact Or.inr (Or.inl h)
  · exact Or.inr (Or.inr (mem_shortDigest h))

/-- A front is ASCII as its start is. -/
theorem isAscii_front {start : String} (h : IsAscii start.toList) (tail : String) :
    IsAscii (front start tail) := by
  intro c hc
  rcases mem_front hc with hc | rfl | hc
  · exact h c hc
  · decide
  · exact isAscii_of_subset_hexDigits (List.Subset.refl _) c hc

/-- A front of a label has the characters of labels. -/
theorem isLabelChar_of_mem_front {start tail : String} {limit : Nat} (hs : Label limit start)
    {c : Char} (hc : c ∈ front start tail) : Rules.isLabelChar c = true := by
  have hdigits : Sha256.hexDigits.all Rules.isLabelChar = true := by decide
  rcases mem_front hc with hc | rfl | hc
  · exact hs.chars c hc
  · decide
  · exact List.all_eq_true.1 hdigits c hc

/-! ## Lengths of names -/

/-- Where a tail leaves no room, nothing is kept of the start. -/
theorem front_of_full {start tail : String} (hs : IsAscii start.toList) (ht : IsAscii tail.toList)
    (hfull : longestName ≤ tail.toList.length + digestLength + 1)
    (h : longestName < start.toList.length + tail.toList.length) :
    front start tail = (shortDigest (start ++ tail)).toList := by
  unfold front
  rw [String.utf8ByteSize_append, utf8ByteSize_of_isAscii hs, utf8ByteSize_of_isAscii ht,
    if_neg (Nat.not_le_of_lt h), Nat.sub_eq_zero_of_le hfull]
  rfl

/-- **A name is short enough exactly when its tail leaves room** for the
start, or for the digits that stand in for it. -/
theorem length_front_add_le_iff {start tail : String} {limit : Nat} (hs : Label limit start)
    (ht : IsAscii tail.toList) :
    (front start tail).length + tail.toList.length ≤ longestName ↔
      min start.toList.length digestLength + tail.toList.length ≤ longestName := by
  rcases Nat.lt_or_ge longestName (start.toList.length + tail.toList.length) with hlong | hle
  · rcases Nat.lt_or_ge (tail.toList.length + digestLength + 1) longestName with hroom | hfull
    · have hkept := length_trimmed_le
        (start.toList.take (longestName - (tail.toList.length + digestLength + 1)))
      rw [List.length_take] at hkept
      have hlength : (front start tail).length = (trimmed (start.toList.take
          (longestName - (tail.toList.length + digestLength + 1)))).length + digestLength + 1 := by
        rw [front_of_lt hs ht hroom hlong, List.length_append, List.length_cons,
          length_shortDigest]
        omega
      refine iff_of_true ?_ ?_
      · omega
      · omega
    · rw [front_of_full hs.isAscii ht hfull hlong, length_shortDigest]
      omega
  · rw [front_of_le hs.isAscii ht hle]
    exact iff_of_true hle (by omega)

/-! ## Names of members -/

/-- Numbers are told apart by their numerals. -/
theorem toString_nat_injective {m n : Nat} (h : (toString m).toList = (toString n).toList) :
    m = n := by
  rw [Text.toList_toString_nat, Text.toList_toString_nat] at h
  have hval := Text.digitsValue?_toDigits m
  rw [h, Text.digitsValue?_toDigits n] at hval
  exact (Option.some.inj hval).symm

/-- Numerals have no hyphens. -/
theorem hyphen_not_mem_toString (n : Nat) : '-' ∉ (toString n).toList :=
  Text.not_mem_toString (by decide)

/-- Numerals are not empty. -/
theorem length_toString_pos (n : Nat) : 0 < (toString n).toList.length := by
  rw [Text.toList_toString_nat]
  exact Nat.length_toDigits_pos

/-- A number below a power of ten has no more digits than the power. -/
theorem length_toString_le {n digits : Nat} (hpos : 0 < digits) (h : n < 10 ^ digits) :
    (toString n).toList.length ≤ digits := by
  rw [Text.toList_toString_nat]
  exact (Nat.length_toDigits_le_iff (by decide) hpos).2 h

/-- Numerals are ASCII. -/
theorem isAscii_toString (n : Nat) : IsAscii (toString n).toList := fun c hc =>
  utf8Size_of_isLabelChar (by simp [Rules.isLabelChar, Text.isDigit_of_mem_toString hc])

/-- The tail of a member's name. -/
def memberTail (ordinal : Nat) : String := "-instance-" ++ toString ordinal

/-- What a member's name keeps of the cluster's. -/
def memberStart (cluster : String) (ordinal : Nat) : List Char :=
  trimmed (cluster.toList.take (longestName - (memberTail ordinal).toList.length))

/-- A member's name keeps characters of the cluster's. -/
theorem mem_memberStart {cluster : String} {ordinal : Nat} {c : Char}
    (h : c ∈ memberStart cluster ordinal) : c ∈ cluster.toList :=
  List.mem_of_mem_take ((prefix_trimmed _).subset h)

/-- And as many as there is room for in front of the number. -/
theorem length_memberStart_le (cluster : String) (ordinal : Nat) :
    (memberStart cluster ordinal).length ≤ longestName - (memberTail ordinal).toList.length :=
  (length_trimmed_le _).trans (List.length_take_le _ _)

theorem isAscii_memberTail (ordinal : Nat) : IsAscii (memberTail ordinal).toList := by
  rw [memberTail, String.toList_append]
  exact isAscii_append (by decide) (isAscii_toString ordinal)

/-- **A member always has a name.** -/
theorem instanceName?_eq {cluster : String} (h : IsAscii cluster.toList) (ordinal : Nat) :
    instanceName? cluster ordinal =
      some (String.ofList (memberStart cluster ordinal) ++ memberTail ordinal) := by
  have htail := utf8ByteSize_of_isAscii (isAscii_memberTail ordinal)
  unfold memberTail at htail
  simp only [instanceName?, cut?_eq h, htail, Option.map_some]
  rfl

end Naming

/-! ## Names by version -/

namespace Namer

open Naming

variable {n : Namer} {kind : ResourceKind}

/-- **A kind that is named by version and content has its name.** -/
theorem versionedName_eq (h : IsAscii n.claimName.toList)
    (hpolicy : kind.namingPolicy = .versionedHash) (version : String) (content : Json) :
    n.versionedName kind version content =
      let tail := n.versionedTail kind version content
      .ok (String.ofList (front n.claimName tail) ++ tail) := by
  have hcheck : checkVersioned kind = .ok () := if_pos hpolicy
  rw [versionedName, hcheck, versionedName?, fit?_eq h]
  rfl

/-- **It is refused for its kind**, and for nothing else. -/
theorem versionedName_eq_fault_iff {version : String} {content : Json} {cause : Fault} :
    n.versionedName kind version content = .error (.fault cause) ↔
      kind.namingPolicy ≠ .versionedHash ∧ cause = .namingPolicy kind := by
  unfold versionedName checkVersioned
  by_cases hpolicy : kind.namingPolicy = .versionedHash
  · rw [if_pos hpolicy]
    cases n.versionedName? kind version content <;>
      simp [Except.mapError, Stop.whole, hpolicy]
  · rw [if_neg hpolicy]
    simp [Except.mapError, hpolicy, eq_comm]

end Namer

end ClusterBlueprint
