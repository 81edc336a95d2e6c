import ClusterBlueprint.Proofs.Blueprint.MemberNames
/-!
# Blueprint — the form of members' names

A member's name is its number behind the name of the cluster, and where the
two are too long together it is the cluster's name that gives way. How much
of it stays depends on the digits of the number and on hyphens that the cut
lays bare. This file says what can be relied on: no more is lost than there
is no room for, hyphens apart (`cutFor_memberStart`), what comes out is a
label (`label_memberName`), and the number can be read off it.
-/

namespace ClusterBlueprint

namespace Naming

variable {cluster tail start text : String} {limit n : Nat}

/-- What a text is cut to in front of a tail: a start that does not end with
a hyphen. Hyphens behind it are lost, and what follows these is lost only
where start, hyphens and tail make up the longest name. -/
structure CutFor (tail text start : String) : Prop where
  last : start.toList.getLast? ≠ some '-'
  split : ∃ (hyphens : Nat) (lost : List Char),
    text.toList = start.toList ++ List.replicate hyphens '-' ++ lost ∧
      (lost = [] ∨ start.utf8ByteSize + hyphens + tail.utf8ByteSize = 63)

/-- **A text that fits in front of the tail is not cut.** -/
theorem CutFor.eq_of_le (h : CutFor tail text start) (ht : Label limit text)
    (hle : text.utf8ByteSize + tail.utf8ByteSize ≤ 63) : start = text := by
  obtain ⟨hyphens, lost, heq, hlost⟩ := h.split
  have hascii : IsAscii start.toList := fun c hc => ht.isAscii c (by rw [heq]; simp [hc])
  have hlost : lost = [] := by
    rcases hlost with hlost | hcap
    · exact hlost
    · have hlen := congrArg List.length heq
      rw [utf8ByteSize_of_isAscii hascii] at hcap
      rw [utf8ByteSize_of_isAscii ht.isAscii] at hle
      simp only [List.length_append, List.length_replicate] at hlen
      exact List.length_eq_zero_iff.1 (by omega)
  rw [hlost, List.append_nil] at heq
  cases hyphens with
  | zero => exact (String.toList_inj.1 (heq.trans (List.append_nil _))).symm
  | succ k =>
    -- a label does not end with a hyphen
    refine absurd ?_ ht.last
    rw [heq, List.replicate_succ', ← List.append_assoc, List.getLast?_concat]

/-! ## Names of members -/

/-- The number of a member leaves room for a letter. -/
theorem length_memberTail_lt (hn : n < 2 ^ 32) : (memberTail n).toList.length < longestName := by
  have hdigits : (toString n).toList.length ≤ 10 := length_toString_le (by decide) (by omega)
  rw [Scheme.length_memberTail, longestName]
  omega

/-- **The cluster's name is cut for the number**, and no further. -/
theorem cutFor_memberStart (h : IsAscii cluster.toList) (hn : n < 2 ^ 32) :
    CutFor (memberTail n) cluster (String.ofList (memberStart cluster n)) := by
  have htail := length_memberTail_lt hn
  obtain ⟨hlast, hyphens, htake⟩ :=
    exists_trimmed (cluster.toList.take (longestName - (memberTail n).toList.length))
  refine ⟨by rw [String.toList_ofList]; exact hlast, hyphens,
    cluster.toList.drop (longestName - (memberTail n).toList.length), ?_, ?_⟩
  · rw [String.toList_ofList, memberStart, ← htake, List.take_append_drop]
  · have hstart : IsAscii (String.ofList (memberStart cluster n)).toList := by
      rw [String.toList_ofList]
      exact fun c hc => h c (mem_memberStart hc)
    have hlen := congrArg List.length htake
    rw [List.length_take, List.length_append, List.length_replicate, ← memberStart] at hlen
    rw [utf8ByteSize_of_isAscii hstart, utf8ByteSize_of_isAscii (isAscii_memberTail n),
      String.toList_ofList, List.drop_eq_nil_iff]
    rw [longestName] at hlen htail ⊢
    omega

/-- A number may end a label. -/
theorem labelEnd_toString (n : Nat) : LabelEnd (toString n) := by
  refine ⟨fun c hc => ?_, ?_, fun h => ?_⟩
  · simp [Rules.isLabelChar, Text.isDigit_of_mem_toString hc]
  · exact List.ne_nil_of_length_pos (length_toString_pos n)
  · exact hyphen_not_mem_toString n (List.mem_of_getLast? h)

/-- **Members of a cluster have labels for names.** -/
theorem label_memberName (h : Label limit cluster) (hn : n < 2 ^ 32) :
    Label longestName (Scheme.memberName cluster n) := by
  have htail := length_memberTail_lt hn
  have hend : LabelEnd (memberTail n) := by
    have hchars : "-instance-".toList.all Rules.isLabelChar = true := by decide
    refine (labelEnd_toString n).append (List.all_eq_true.1 hchars) ?_
    rw [memberTail, String.toList_append]
  obtain ⟨c, rest, hstart, -, hlower⟩ := exists_trimmed_take h (Nat.sub_pos_of_lt htail)
  refine label_append ⟨c, rest, hstart, hlower⟩ (fun d hd => h.chars d (mem_memberStart hd)) hend ?_
  have hlen := length_memberStart_le cluster n
  omega

/-- What a member of a cluster is called. -/
structure MemberNamed (cluster : String) (ordinal : Nat) (name : String) : Prop where
  label : ∀ field, Rules.checkLabel field name 63 = .ok ()
  /-- The number stays whole, and the cluster's name is cut for it. -/
  cut : ∃ start, name = start ++ ("-instance-" ++ toString ordinal) ∧
    CutFor ("-instance-" ++ toString ordinal) cluster start
  /-- Where there is room nothing is cut. -/
  whole : (cluster ++ ("-instance-" ++ toString ordinal)).utf8ByteSize ≤ 63 →
    name = cluster ++ ("-instance-" ++ toString ordinal)

theorem memberNamed_memberName (h : Label limit cluster) (hn : n < 2 ^ 32) :
    MemberNamed cluster n (Scheme.memberName cluster n) := by
  have hcut := cutFor_memberStart h.isAscii hn
  refine ⟨fun field => checkLabel_eq_ok_iff.2 (label_memberName h hn), ⟨_, rfl, hcut⟩, ?_⟩
  intro hfits
  rw [String.utf8ByteSize_append] at hfits
  exact congrArg (· ++ memberTail n) (hcut.eq_of_le h hfits)

/-- **The names of members.** Whatever label a cluster has for its name,
each of its members has one for its own: the number behind what there is
room for of the cluster's name. Members with one name have one number. -/
theorem instanceName?_memberNamed {field : String}
    (h : Rules.checkLabel field cluster 63 = .ok ()) :
    (∀ n < 2 ^ 32, ∃ name, instanceName? cluster n = some name ∧ MemberNamed cluster n name) ∧
      ∀ m n : Nat, instanceName? cluster m = instanceName? cluster n → m = n := by
  have hlabel := label_of_checkLabel h
  have hname : ∀ n, instanceName? cluster n = some (Scheme.memberName cluster n) :=
    instanceName?_eq hlabel.isAscii
  refine ⟨fun n hn => ⟨_, hname n, memberNamed_memberName hlabel hn⟩, fun m n heq => ?_⟩
  rw [hname m, hname n] at heq
  exact Scheme.eq_of_memberName_eq (Option.some.inj heq)

/-- The tenth member of this cluster has room for one character less than
the ninth, and loses two: the cut lays a hyphen bare. -/
theorem instanceName?_memberNamed_hyphen :
    let cluster := "vectordb-analytics-production-cluster-of-europe-we-1-primary"
    let start := "vectordb-analytics-production-cluster-of-europe-we"
    Rules.checkLabel "clusterName" cluster 63 = .ok () ∧
      MemberNamed cluster 9 (start ++ "-1-instance-9") ∧
      MemberNamed cluster 10 (start ++ "-instance-10") ∧
      instanceName? cluster 9 ≠ instanceName? cluster 10 := by
  intro cluster start
  have hcluster : Rules.checkLabel "clusterName" cluster 63 = .ok () :=
    Fallible.toOption_eq_some_iff.1 (by decide)
  obtain ⟨hnamed, hinj⟩ := instanceName?_memberNamed hcluster
  obtain ⟨ninth, hninth, hnine⟩ := hnamed 9 (by decide)
  obtain ⟨tenth, htenth, hten⟩ := hnamed 10 (by decide)
  have hnine' : instanceName? cluster 9 = some (start ++ "-1-instance-9") := by decide +kernel
  have hten' : instanceName? cluster 10 = some (start ++ "-instance-10") := by decide +kernel
  rw [Option.some.inj (hninth.symm.trans hnine')] at hnine
  rw [Option.some.inj (htenth.symm.trans hten')] at hten
  exact ⟨hcluster, hnine, hten, fun heq => absurd (hinj 9 10 heq) (by decide)⟩

end Naming

end ClusterBlueprint
