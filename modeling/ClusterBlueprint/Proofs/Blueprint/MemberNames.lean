import ClusterBlueprint.Proofs.Blueprint.PartNames
/-!
# Blueprint — names of members

A member has the name of its cluster with `instance` and its number behind
it, cut in the middle where it would be too long. Members of one cluster
are told apart by their numbers (`eq_of_memberName_eq`). When the claim
leaves the name of the cluster to be made, no member has the name of a part
either (`memberName_ne_nameOf`). What is kept of the cluster's name holds
the whole of the claim's and the word `cluster`, and a part whose name
starts so would have the word in its stem. The cluster itself does, but the
suffix would have to repeat all that is kept of it and go on.
-/

namespace ClusterBlueprint

namespace Scheme

open Naming

variable {s s' : Scheme} {p : Part} {m n : Nat}

/-- The name of a member of a cluster, counted from one. -/
def memberName (cluster : String) (ordinal : Nat) : String :=
  String.ofList (memberStart cluster ordinal) ++ memberTail ordinal

/-- The name of the cluster. -/
def clusterName (s : Scheme) : String := s.spec.clusterName.getD (s.nameOf .cluster)

/-- The word that every member's name has. -/
def instanceWord : List Char := ['i', 'n', 's', 't', 'a', 'n', 'c', 'e']

theorem toList_memberTail (ordinal : Nat) :
    (memberTail ordinal).toList = '-' :: (instanceWord ++ '-' :: (toString ordinal).toList) := by
  rw [memberTail, String.toList_append]
  rfl

theorem toList_memberName (cluster : String) (ordinal : Nat) :
    (memberName cluster ordinal).toList =
      memberStart cluster ordinal ++ '-' :: (instanceWord ++ '-' :: (toString ordinal).toList) := by
  rw [memberName, String.toList_append, String.toList_ofList, toList_memberTail]

/-- The words of a member's name. -/
theorem words_memberName (cluster : String) (ordinal : Nat) :
    words (memberName cluster ordinal).toList =
      words (memberStart cluster ordinal) ++ [instanceWord, (toString ordinal).toList] := by
  rw [toList_memberName, words_append_hyphen, words_append_hyphen,
    words_of_not_mem (by decide : '-' ∉ instanceWord),
    words_of_not_mem (hyphen_not_mem_toString ordinal)]
  rfl

/-- **Members are told apart by their numbers.** -/
theorem eq_of_memberName_eq {cluster cluster' : String}
    (h : memberName cluster m = memberName cluster' n) : m = n := by
  have heq : words (memberName cluster m).toList = words (memberName cluster' n).toList := by rw [h]
  rw [words_memberName, words_memberName] at heq
  obtain ⟨-, hlast⟩ := List.append_inj' heq rfl
  simp only [List.cons.injEq, and_true, true_and] at hlast
  exact toString_nat_injective hlast

/-- A member's name is not versioned. -/
theorem memberName_ne_of_isVersioned (hp : p.isVersioned = true) (cluster : String) :
    memberName cluster n ≠ s.nameOf p := by
  intro h
  have heq : words (memberName cluster n).toList = words (s.nameOf p).toList := by rw [h]
  rw [words_memberName, words_nameOf, words_ending hp, ← List.append_assoc] at heq
  -- the last two words are `instance` and the number, or a version and a digest
  have hlast := (List.append_inj' heq (by simp)).2
  simp only [List.cons.injEq, toList_parameterVersion] at hlast
  have hhead : instanceWord.head? = some 'p' := by rw [hlast.1]; rfl
  exact absurd hhead (by decide)

/-! ## Members of a cluster whose name is made -/

/-- A cut falls into what stands behind a piece that it keeps. -/
theorem trimmed_take_append {cs ds : List Char} (hd : ∃ c rest, ds = c :: rest ∧ c ≠ '-') {k : Nat}
    (hk : cs.length < k) :
    trimmed ((cs ++ ds).take k) = cs ++ trimmed (ds.take (k - cs.length)) := by
  obtain ⟨c, rest, rfl, hc⟩ := hd
  obtain ⟨j, rfl⟩ : ∃ j, k = cs.length + (j + 1) := ⟨k - cs.length - 1, by omega⟩
  rw [List.take_length_add_append, Nat.add_sub_cancel_left, List.take_succ_cons,
    trimmed_append_cons hc, trimmed_cons hc]

/-- The word that a made name of the cluster has. -/
def clusterWord : List Char := ['c', 'l', 'u', 's', 't', 'e', 'r']

/-- What a made name of the cluster has in front of the suffix. -/
def clusterHead (s : Scheme) : List Char :=
  s.spec.claimName.toList ++ '-' :: (clusterWord ++ ['-'])

theorem length_clusterHead (hs : s.spec.Checked) : s.clusterHead.length ≤ 39 := by
  have hclaim := hs.claimName.length_le
  have hnine : ('-' :: (clusterWord ++ ['-'])).length = 9 := rfl
  rw [clusterHead, List.length_append, hnine]
  omega

/-- A made name of the cluster is short enough to stay whole. -/
theorem toList_nameOf_cluster (hs : s.spec.Checked) :
    (s.nameOf .cluster).toList = s.clusterHead ++ s.spec.environmentSuffix.toList := by
  have htail : (s.tailOf .cluster).toList =
      '-' :: (clusterWord ++ ['-']) ++ s.spec.environmentSuffix.toList := by
    rw [toList_tailOf, ending_of_not_isVersioned rfl]
    rfl
  have hfits :
      s.spec.claimName.toList.length + (s.tailOf .cluster).toList.length ≤ longestName := by
    have hclaim := hs.claimName.length_le
    have hsuffix := hs.suffix.length_le
    have hnine : ('-' :: (clusterWord ++ ['-'])).length = 9 := rfl
    rw [htail, List.length_append, hnine, longestName]
    omega
  rw [nameOf, String.toList_append, String.toList_ofList,
    front_of_le hs.claimName.isAscii (isAscii_tailOf hs (by decide) rfl) hfits, htail, clusterHead,
    List.append_assoc]

theorem length_memberTail (ordinal : Nat) :
    (memberTail ordinal).toList.length = 10 + (toString ordinal).toList.length := by
  rw [memberTail, String.toList_append, List.length_append]
  rfl

theorem length_memberTail_le (h : n ≤ 15) : (memberTail n).toList.length ≤ 12 := by
  have hdigits : (toString n).toList.length ≤ 2 := length_toString_le (by decide) (by omega)
  rw [length_memberTail]
  omega

theorem lt_length_memberTail (ordinal : Nat) : 10 < (memberTail ordinal).toList.length := by
  have hdigits := length_toString_pos ordinal
  rw [length_memberTail]
  omega

/-- What a member's name keeps of the suffix. -/
def keptSuffix (s : Scheme) (ordinal : Nat) : List Char :=
  trimmed (s.spec.environmentSuffix.toList.take
    (longestName - (memberTail ordinal).toList.length - s.clusterHead.length))

/-- At least twelve characters of the suffix are looked at. -/
theorem twelve_le (hs : s.spec.Checked) (hn : n ≤ 15) :
    12 ≤ longestName - (memberTail n).toList.length - s.clusterHead.length := by
  have htail := length_memberTail_le hn
  have hhead := length_clusterHead hs
  rw [longestName]
  omega

/-- **A member's name holds the claim's name, the cluster's word and a piece
of the suffix.** -/
theorem memberStart_nameOf_cluster (hs : s.spec.Checked) (hn : n ≤ 15) :
    memberStart (s.nameOf .cluster) n = s.clusterHead ++ s.keptSuffix n := by
  have htwelve := twelve_le hs hn
  rw [memberStart, toList_nameOf_cluster hs, trimmed_take_append hs.suffix.exists_cons (by omega),
    keptSuffix]

/-- The piece reaches to its last character that is no hyphen, or past the
twelfth. -/
theorem lt_length_keptSuffix (hs : s.spec.Checked) (hn : n ≤ 15) {c : Char} {cs ds : List Char}
    (h : s.spec.environmentSuffix.toList = cs ++ c :: ds) (hc : c ≠ '-') (hlt : cs.length < 12) :
    cs.length < (s.keptSuffix n).length := by
  have htwelve := twelve_le hs hn
  rw [keptSuffix, h]
  exact length_trimmed_take hc (by omega)

/-- **A member is not named like its cluster**: the suffix would be the
piece kept of it and the member's tail behind, and a suffix so short is
kept whole. -/
theorem memberName_ne_nameOf_cluster (hs : s.spec.Checked) (hn : n ≤ 15) :
    memberName (s.nameOf .cluster) n ≠ s.nameOf .cluster := by
  intro h
  have heq := congrArg String.toList h
  rw [toList_memberName, memberStart_nameOf_cluster hs hn, toList_nameOf_cluster hs,
    List.append_assoc, List.append_cancel_left_eq] at heq
  have hsuffix := hs.suffix.length_le
  have hshort : (s.keptSuffix n ++ ['-']).length < 12 := by
    have htail := lt_length_memberTail n
    rw [← heq, List.length_append, ← toList_memberTail] at hsuffix
    rw [List.length_append, List.length_singleton]
    omega
  -- the tail goes on with the `i` of `instance`, so the cut kept the hyphen in
  -- front of it as well, which is more than it kept
  have hi : s.spec.environmentSuffix.toList =
      (s.keptSuffix n ++ ['-']) ++ 'i' :: (instanceWord.tail ++ '-' :: (toString n).toList) := by
    rw [← heq, List.append_assoc]
    rfl
  have hkept := lt_length_keptSuffix hs hn hi (by decide) hshort
  rw [List.length_append] at hkept
  omega

/-- **No suffix makes a name look like a member's**, not even the suffix of
another environment. -/
theorem memberName_ne_of_not_isVersioned (hs : s.spec.Checked) (hs' : s'.spec.Checked)
    (hclaim : s'.spec.claimName = s.spec.claimName) (hp : p ∈ Extent.widest.parts)
    (hv : p.isVersioned = false) (hn : n ≤ 15) :
    memberName (s'.nameOf .cluster) n ≠ s.nameOf p := by
  intro h
  have hnamed : p ∈ Extent.named := List.mem_cons_of_mem _ hp
  have hword : clusterWord ∉ words p.stem := Part.cluster_not_mem_words p hp hv
  have heq : (s.nameOf p).toList = s.spec.claimName.toList ++
      '-' :: (clusterWord ++ '-' :: (s'.keptSuffix n ++ (memberTail n).toList)) := by
    rw [← h, toList_memberName, memberStart_nameOf_cluster hs' hn, clusterHead, hclaim,
      toList_memberTail]
    simp
  have hfirst : words (clusterWord ++ '-' :: (s'.keptSuffix n ++ (memberTail n).toList)) =
      clusterWord :: words (s'.keptSuffix n ++ (memberTail n).toList) := by
    rw [words_append_hyphen, words_of_not_mem (by decide : '-' ∉ clusterWord),
      List.singleton_append]
  have hhead : ∀ w ∈ (words (clusterWord ++ '-' ::
      (s'.keptSuffix n ++ (memberTail n).toList))).head?, w ∉ (words p.stem).tail := by
    rw [hfirst]
    rintro w hw htail
    obtain rfl : clusterWord = w := Option.some.inj hw
    exact hword (List.mem_of_mem_tail htail)
  have hfront := front_eq_of_claimName hs hnamed hv heq hhead
  -- so the stem starts where the word of the cluster does
  rw [toList_nameOf, hfront, ending_of_not_isVersioned hv, List.append_cancel_left_eq] at heq
  have hwords := congrArg words (List.cons.inj heq).2
  rw [hfirst, words_append_hyphen] at hwords
  obtain ⟨w, ws, hstem⟩ := List.exists_cons_of_ne_nil (words_ne_nil p.stem)
  rw [hstem, List.cons_append] at hwords
  exact hword (by rw [hstem, (List.cons.inj hwords).1]; exact List.mem_cons_self)

/-- **Members of a cluster whose name is made have names of their own.** -/
theorem memberName_ne_nameOf (hs : s.spec.Checked) (hn : n ≤ 15) (hp : p ∈ Extent.named) :
    memberName (s.nameOf .cluster) n ≠ s.nameOf p := by
  rcases List.mem_cons.1 hp with rfl | hp
  · exact memberName_ne_nameOf_cluster hs hn
  · cases hv : p.isVersioned
    · exact memberName_ne_of_not_isVersioned hs hs rfl hp hv hn
    · exact memberName_ne_of_isVersioned hv _

end Scheme

end ClusterBlueprint
