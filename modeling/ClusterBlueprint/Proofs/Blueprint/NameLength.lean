import ClusterBlueprint.Proofs.Blueprint.Resources
/-!
# Blueprint — the length of names

The provider takes names of at most 63 bytes. Names by environment and
names of members always keep to that, under all settings. A versioned name
need not: only its start is ever cut, and its tail grows with the digits of
the digest, of which the settings allow up to 64. The longer of the two
parameter groups has a tail of twenty bytes besides the version's number
and the digest, and `namesFit_iff` says which settings and claims leave
room for it. Up to 25 digits do for every claim
(`namesFit_of_hashLength_le`).
-/

namespace ClusterBlueprint

/-- Every name of a blueprint is one that the provider takes. -/
def Blueprint.NamesFit (b : Blueprint) : Prop :=
  ∀ n ∈ b.graph.nodes, n.name.utf8ByteSize ≤ 63

namespace Spec

/-- The number of a version is one of 32 bits. -/
theorem majorVersion_lt (spec : Spec) : spec.majorVersion < 2 ^ 32 := by
  unfold majorVersion Rules.checkEngineVersion
  cases hread : Rules.readMajor spec.engineVersion with
  | none => exact Nat.two_pow_pos 32
  | some major =>
    have hlt : major < 2 ^ 32 := by
      unfold Rules.readMajor at hread
      split at hread
      · split at hread
        · obtain ⟨-, hbound⟩ := Option.filter_eq_some_iff.1 hread
          exact of_decide_eq_true hbound
        · cases hread
      · cases hread
    by_cases hold : 11 ≤ major
    · simpa [Option.filter_some, hold] using hlt
    · simp [Option.filter_some, hold]

/-- So it has ten digits at most. -/
theorem length_majorVersion_le (spec : Spec) : (toString spec.majorVersion).utf8ByteSize ≤ 10 := by
  have hlt := spec.majorVersion_lt
  rw [Naming.utf8ByteSize_of_isAscii (Naming.isAscii_toString _)]
  exact Naming.length_toString_le (by decide) (by omega)

end Spec

namespace Scheme

open Naming

variable {s : Scheme} {p : Part} {password : Option String} {g : Graph} {n : Node}

/-! ## Names of parts -/

/-- The tail of every name is ASCII. -/
theorem isAscii_tailOf_of_mem (hs : s.spec.Checked) (hp : p ∈ Extent.named) :
    IsAscii (s.tailOf p).toList := by
  cases hv : p.isVersioned with
  | false => exact isAscii_tailOf hs hp hv
  | true =>
    have hyphen : ∀ cs, IsAscii cs → IsAscii ('-' :: cs) := fun cs h =>
      List.forall_mem_cons.2 ⟨by decide, h⟩
    have hversion : IsAscii s.parameterVersion.toList := by
      rw [toList_parameterVersion]
      exact @isAscii_append ['p', 'g'] _ (by decide) (isAscii_toString _)
    have hdigits : IsAscii (s.digits p) := by
      refine isAscii_of_subset_hexDigits fun c hc => ?_
      simp only [digits, Namer.contentDigest, String.toList_ofList] at hc
      exact Sha256.mem_hexDigest (List.mem_of_mem_take hc)
    rw [toList_tailOf, ending_of_isVersioned hv]
    exact hyphen _ (isAscii_append (Part.isAscii_stem hp)
      (hyphen _ (isAscii_append hversion (hyphen _ hdigits))))

/-- **A name is short enough when its tail leaves room.** -/
theorem nameOf_le_iff (hs : s.spec.Checked) (hp : p ∈ Extent.named) :
    (s.nameOf p).utf8ByteSize ≤ longestName ↔
      min s.spec.claimName.toList.length digestLength + (s.tailOf p).toList.length ≤
        longestName := by
  have htail := isAscii_tailOf_of_mem hs hp
  have hfront : IsAscii (String.ofList (front s.spec.claimName (s.tailOf p))).toList := by
    rw [String.toList_ofList]
    exact isAscii_front hs.claimName.isAscii _
  rw [← length_front_add_le_iff hs.claimName htail, nameOf, String.utf8ByteSize_append,
    utf8ByteSize_of_isAscii hfront, utf8ByteSize_of_isAscii htail, String.toList_ofList]

/-- **A name by environment is short enough.** -/
theorem nameOf_le (hs : s.spec.Checked) (hp : p ∈ Extent.named) (hv : p.isVersioned = false) :
    (s.nameOf p).utf8ByteSize ≤ longestName := by
  have hroom := length_tailOf_lt hs hp hv
  rw [nameOf_le_iff hs hp]
  omega

/-- The length of the tail of a versioned name. -/
theorem length_tailOf_of_isVersioned (s : Scheme) (hv : p.isVersioned = true) :
    (s.tailOf p).toList.length =
      p.stem.length + (toString s.spec.majorVersion).toList.length + min s.config.hashLength 64 +
        5 := by
  rw [toList_tailOf, ending_of_isVersioned hv, toList_parameterVersion]
  simp only [List.length_cons, List.length_append, length_digits]
  omega

/-! ## Names of the cluster and its members -/

/-- The name of the cluster is short enough, made or asked for. -/
theorem clusterName_le (hs : s.spec.Checked) : s.clusterName.utf8ByteSize ≤ longestName := by
  unfold clusterName
  cases hname : s.spec.clusterName with
  | none => exact nameOf_le hs List.mem_cons_self rfl
  | some name =>
    have hlabel := hs.clusterName name hname
    rw [Option.getD_some, utf8ByteSize_of_isAscii hlabel.isAscii]
    exact hlabel.length_le

/-- A member of a cluster has a name that is short enough. -/
theorem memberName_le {cluster : String} (h : IsAscii cluster.toList) {ordinal : Nat}
    (hle : ordinal ≤ 15) : (memberName cluster ordinal).utf8ByteSize ≤ longestName := by
  have htail := length_memberTail_le hle
  have hstart := length_memberStart_le cluster ordinal
  have hascii : IsAscii (String.ofList (memberStart cluster ordinal)).toList := by
    rw [String.toList_ofList]
    exact fun c hc => h c (mem_memberStart hc)
  rw [memberName, String.utf8ByteSize_append, utf8ByteSize_of_isAscii hascii,
    utf8ByteSize_of_isAscii (isAscii_memberTail ordinal), String.toList_ofList]
  rw [longestName] at hstart ⊢
  omega

/-! ## Names of a graph -/

/-- **Every name but those of the parameter groups is short enough.** -/
theorem name_le_of_suffix (hs : s.spec.Checked) (hg : g.nodes.map Node.draft = s.drafts password)
    (hn : n ∈ g.nodes) (hpolicy : n.kind.namingPolicy = .suffix) :
    n.name.utf8ByteSize ≤ longestName := by
  rcases draft_cases hg hn with ⟨p, hp, hdraft⟩ | ⟨i, hi, hdraft⟩
  · have hv : p.isVersioned = false := by
      rw [Part.isVersioned, ← kind_of_drawn hdraft, hpolicy]
      rfl
    rw [name_of_drawn hdraft]
    split
    · exact clusterName_le hs
    · exact nameOf_le hs (mem_named_of_drawn hs hp) hv
  · have hfifteen := hs.instanceCount.2
    rw [name_of_member hdraft]
    exact memberName_le (isAscii_clusterName hs) (by omega)

/-- **When all names fit**: the tail of the longer parameter group has to
leave room for the claim's name or the digits in its place. -/
theorem namesFit_iff (hs : s.spec.Checked) (hg : g.nodes.map Node.draft = s.drafts password) :
    (s.blueprintOf password g).NamesFit ↔
      min s.spec.claimName.utf8ByteSize 8 + (toString s.spec.majorVersion).utf8ByteSize +
          min s.config.hashLength 64 + 20 ≤ 63 := by
  have hversioned : ∀ p : Part, p.isVersioned = true → p.stem.length ≤ 15 := by
    intro p hv
    cases p <;> first | decide | cases hv
  have hlongest : Part.instanceParameters.stem.length = 15 := rfl
  rw [utf8ByteSize_of_isAscii hs.claimName.isAscii, utf8ByteSize_of_isAscii (isAscii_toString _)]
  constructor
  · intro hfit
    obtain ⟨n, hn, hdraft⟩ := exists_node hg (p := .instanceParameters)
      (Or.inl (Extent.mem_parts.2 trivial))
    have hle := hfit n hn
    rw [name_of_drawn hdraft, if_neg (by decide)] at hle
    have hroom := (nameOf_le_iff hs (by decide)).1 hle
    rw [s.length_tailOf_of_isVersioned rfl, hlongest, digestLength, longestName] at hroom
    omega
  · intro hroom n hn
    rcases draft_cases hg hn with ⟨p, hp, hdraft⟩ | ⟨i, hi, hdraft⟩
    · have hmem := mem_named_of_drawn hs hp
      rw [name_of_drawn hdraft]
      split
      · exact clusterName_le hs
      · cases hv : p.isVersioned with
        | false => exact nameOf_le hs hmem hv
        | true =>
          have hstem := hversioned p hv
          refine (nameOf_le_iff hs hmem).2 ?_
          rw [s.length_tailOf_of_isVersioned hv, digestLength, longestName]
          omega
    · exact name_le_of_suffix hs hg hn (kind_of_member hdraft ▸ rfl)

end Scheme

namespace Blueprint

variable {σ : Type} {config : Config} {source : PasswordSource σ} {claim : Json} {state : σ}
  {b : Blueprint}

/-- **Digests of up to 25 digits leave room in every claim.** -/
theorem namesFit_of_hashLength_le (hh : config.hashLength ≤ 25)
    (h : (ofClaim config source claim state).1 = .ok b) : b.NamesFit := by
  obtain ⟨spec, -, hspec, -⟩ := exists_scheme h
  obtain ⟨s, password, g, hs, -, rfl, hg, rfl⟩ := exists_drawn hspec h
  have hversion := s.spec.length_majorVersion_le
  rw [Scheme.namesFit_iff hs.spec hg]
  omega

/-- **The length of names.** Whatever the settings, every name of a claim
that compiles is at most the longest one that the provider takes, those of
the parameter groups apart. These keep to it exactly when their tail, which
is never cut, leaves room for the claim's name or the digits in its place. -/
theorem ofClaim_namesFit_iff (h : (ofClaim config source claim state).1 = .ok b) :
    (∀ n ∈ b.graph.nodes, n.kind.namingPolicy = .suffix →
        n.name.utf8ByteSize ≤ 63) ∧
      (b.NamesFit ↔ min b.spec.claimName.utf8ByteSize 8 +
          (toString b.spec.majorVersion).utf8ByteSize + min config.hashLength 64 + 20 ≤ 63) := by
  obtain ⟨spec, -, hspec, -⟩ := exists_scheme h
  obtain ⟨s, password, g, hs, -, rfl, hg, rfl⟩ := exists_drawn hspec h
  exact ⟨fun n hn => Scheme.name_le_of_suffix hs.spec hg hn, Scheme.namesFit_iff hs.spec hg⟩

/-- Under the defaults a claim that names its region has names that fit. -/
theorem ofClaim_namesFit_region :
    let claim := Json.object [("region", .text "us-west-2")]
    let source := PasswordSource.constant "correct-horse-battery"
    ∃ b : Blueprint, (ofClaim {} source claim ()).1 = .ok b ∧ b.NamesFit := by
  intro claim source
  have hspec : Spec.ofClaim claim = .ok (Spec.ofRegion "us-west-2") :=
    Spec.ofClaim_region (by decide) (by decide)
  obtain ⟨b, hb⟩ := exists_ofClaim_west hspec rfl rfl source ()
  obtain ⟨-, hfit⟩ := ofClaim_namesFit_iff hb
  obtain ⟨s, password, g, -, hsspec, -, -, rfl⟩ := exists_drawn hspec hb
  refine ⟨_, hb, hfit.2 ?_⟩
  have hread : (s.blueprintOf password g).spec = Spec.ofRegion "us-west-2" := hsspec
  rw [hread]
  decide +kernel

/-- **Settings that pass their check can make a name too long**: with all
digits of the digest in them, the names of the parameter groups have 93 and
94 bytes. -/
theorem hashLength_overflows_name :
    let config : Config := { hashLength := 64 }
    let claim := Json.object [("region", .text "us-west-2")]
    let source := PasswordSource.constant "correct-horse-battery"
    config.check = .ok () ∧
      ∃ b : Blueprint, (ofClaim config source claim ()).1 = .ok b ∧
        ∃ n ∈ b.graph.nodes, 63 < n.name.utf8ByteSize := by
  intro config claim source
  have hletters : Region.letters? "us-west-2" = some ['a', 'b', 'c', 'd'] := by decide +kernel
  have hspec : Spec.ofClaim claim = .ok (Spec.ofRegion "us-west-2") :=
    Spec.ofClaim_region (by decide) (by decide)
  obtain ⟨b, hb⟩ : ∃ b, (ofClaim config source claim ()).1 = .ok b := by
    rw [ofClaim, hspec]
    exact exists_ofSpec_of_digits (by decide) (Spec.check_ofRegion (by decide)) hletters
      (by decide) rfl source ()
  obtain ⟨s, password, g, hs, hsspec, hsconfig, hg, rfl⟩ := exists_drawn hspec hb
  refine ⟨Fallible.toOption_eq_some_iff.1 (by decide), _, hb, ?_⟩
  by_contra hno
  have hfit : (s.blueprintOf password g).NamesFit := fun n hn =>
    Nat.le_of_not_lt fun hlt => hno ⟨n, hn, hlt⟩
  rw [Scheme.namesFit_iff hs.spec hg, hsspec, hsconfig] at hfit
  exact absurd hfit (by decide +kernel)

end Blueprint

end ClusterBlueprint
