import ClusterBlueprint.Proofs.Blueprint.AskedNames
/-!
# Blueprint — names of two claims

Two claims of one environment are told apart by their own names, which
stand in front of equal tails. A name that is shortened has digits of a
digest in it, so that claims whose names start alike do not meet. Names
that are shortened both are indeed told apart by their digits, and names
that are kept whole by the claims' names. A shortened name and a whole one
are not: what a start is shortened to is a label, and nothing keeps another
claim from having it for its name. This is the one way in which two claims
can meet while the digests of their unshortened names differ
(`fit?_eq_fit?_iff`), and it does happen (`imitator_shares_name`).
-/

namespace ClusterBlueprint

namespace Naming

variable {a b tail : String} {limit limit' : Nat}

/-- A claim's name that spells out what another one is shortened to: the
start that is kept of it, a hyphen, and the digits of the whole. -/
def Imitates (other start tail : String) : Prop :=
  longestName < (start ++ tail).utf8ByteSize ∧
    (cut? (longestName - (tail.utf8ByteSize + digestLength + 1)) start).map
      (fun kept => String.ofList kept ++ "-" ++ shortDigest (start ++ tail)) = some other

instance (other start tail : String) : Decidable (Imitates other start tail) :=
  inferInstanceAs (Decidable (_ ∧ _))

/-- **To imitate is to be the front of a name that is too long.** -/
theorem imitates_iff (hb : Label limit b) (ht : IsAscii tail.toList)
    (hroom : tail.toList.length + digestLength + 1 < longestName) :
    Imitates a b tail ↔
      longestName < b.toList.length + tail.toList.length ∧ a.toList = front b tail := by
  unfold Imitates
  rw [String.utf8ByteSize_append, utf8ByteSize_of_isAscii hb.isAscii, utf8ByteSize_of_isAscii ht,
    cut?_eq hb.isAscii, Option.map_some, Option.some.injEq]
  refine and_congr_right fun hlong => ?_
  rw [front_of_lt hb ht hroom hlong, ← String.toList_inj, eq_comm]
  simp

/-- What imitates is short enough to be kept whole. -/
theorem Imitates.length_le (h : Imitates a b tail) (hb : Label limit b) (ht : IsAscii tail.toList)
    (hroom : tail.toList.length + digestLength + 1 < longestName) :
    a.toList.length + tail.toList.length ≤ longestName := by
  rw [((imitates_iff hb ht hroom).1 h).2, length_front_add_le_iff hb ht]
  omega

/-- **Shortened names are told apart by their digits.** -/
theorem shortDigest_eq_of_front_eq (ha : Label limit a) (hb : Label limit' b)
    (ht : IsAscii tail.toList) (hroom : tail.toList.length + digestLength + 1 < longestName)
    (hla : longestName < a.toList.length + tail.toList.length)
    (hlb : longestName < b.toList.length + tail.toList.length)
    (h : front a tail = front b tail) : shortDigest (a ++ tail) = shortDigest (b ++ tail) := by
  rw [front_of_lt ha ht hroom hla, front_of_lt hb ht hroom hlb] at h
  obtain ⟨-, hdigits⟩ := List.append_inj' h (by
    rw [List.length_cons, List.length_cons, length_shortDigest, length_shortDigest])
  exact String.toList_inj.1 (List.cons.inj hdigits).2

/-- **Two starts share a name only by imitation**, if the digits of their
unshortened names differ. -/
theorem fit?_eq_fit?_iff (ha : Label limit a) (hb : Label limit' b) (ht : IsAscii tail.toList)
    (hroom : tail.toList.length + digestLength + 1 < longestName)
    (hdigits : shortDigest (a ++ tail) ≠ shortDigest (b ++ tail)) :
    fit? a tail = fit? b tail ↔ Imitates a b tail ∨ Imitates b a tail := by
  have hfront : fit? a tail = fit? b tail ↔ front a tail = front b tail := by
    rw [fit?_eq ha.isAscii, fit?_eq hb.isAscii, Option.some.injEq, ← String.toList_inj,
      String.toList_append, String.toList_append, String.toList_ofList, String.toList_ofList,
      List.append_left_inj]
  rw [hfront]
  constructor
  · intro heq
    -- one of the two is shortened and the other is not
    rcases Nat.lt_or_ge longestName (a.toList.length + tail.toList.length) with hla | hla <;>
      rcases Nat.lt_or_ge longestName (b.toList.length + tail.toList.length) with hlb | hlb
    · exact absurd (shortDigest_eq_of_front_eq ha hb ht hroom hla hlb heq) hdigits
    · rw [front_of_le hb.isAscii ht hlb] at heq
      exact Or.inr ((imitates_iff ha ht hroom).2 ⟨hla, heq.symm⟩)
    · rw [front_of_le ha.isAscii ht hla] at heq
      exact Or.inl ((imitates_iff hb ht hroom).2 ⟨hlb, heq⟩)
    · rw [front_of_le ha.isAscii ht hla, front_of_le hb.isAscii ht hlb, String.toList_inj] at heq
      exact absurd (by rw [heq]) hdigits
  · rintro (h | h)
    · rw [front_of_le ha.isAscii ht (h.length_le hb ht hroom)]
      exact ((imitates_iff hb ht hroom).1 h).2
    · rw [front_of_le hb.isAscii ht (h.length_le ha ht hroom)]
      exact ((imitates_iff ha ht hroom).1 h).2.symm

end Naming

open Naming

namespace Namer

variable {n n' : Namer} {kind : ResourceKind} {extra : Option String}

/-- **Claims of one environment.** Where the digits of the unshortened names
differ, two claims have a name in common exactly if one of them is called
what the other one is shortened to. -/
theorem name?_eq_name?_iff {field field' field'' : String}
    (hclaim : Rules.checkLabel field n.claimName 30 = .ok ())
    (hclaim' : Rules.checkLabel field' n'.claimName 30 = .ok ())
    (hsuffix : Rules.checkLabel field'' n.suffix 20 = .ok ()) (hsame : n'.suffix = n.suffix)
    (hasked : Asked kind extra)
    (hdigits : shortDigest (n.claimName ++ n.tail kind extra) ≠
      shortDigest (n'.claimName ++ n'.tail kind extra)) :
    n.name? kind extra = n'.name? kind extra ↔
      Imitates n.claimName n'.claimName (n.tail kind extra) ∨
        Imitates n'.claimName n.claimName (n.tail kind extra) := by
  obtain ⟨p, hp, -, rfl, rfl⟩ := asked_iff.1 hasked
  have hclaim := label_of_checkLabel hclaim
  have hclaim' := label_of_checkLabel hclaim'
  have hsuffix := label_of_checkLabel hsuffix
  have htail : n'.tail p.kind p.extra = n.tail p.kind p.extra := by simp [tail, hsame]
  rw [htail] at hdigits
  rw [name?, name?, htail]
  exact fit?_eq_fit?_iff hclaim hclaim' (labelEnd_tail hsuffix hp).isAscii
    (length_tail_lt hsuffix hp) hdigits

/-- The namer of a claim in one environment under the defaults. -/
def ofClaimName (claimName : String) : Namer :=
  Namer.of { Spec.ofRegion "us-west-2" with
    claimName := claimName, environmentSuffix := "production-us-west-2" } {}

/-- Two claims whose names are cut to the same start are told apart. -/
theorem name?_eq_name?_iff_replica :
    let n := ofClaimName "analytics-vector-store-primary"
    let n' := ofClaimName "analytics-vector-store-replica"
    Rules.checkLabel "claimName" n.claimName 30 = .ok () ∧
      Rules.checkLabel "claimName" n'.claimName 30 = .ok () ∧
      Rules.checkLabel "environmentSuffix" n.suffix 20 = .ok () ∧ n'.suffix = n.suffix ∧
      Asked .securityGroup none ∧
      shortDigest (n.claimName ++ n.tail .securityGroup none) ≠
        shortDigest (n'.claimName ++ n'.tail .securityGroup none) ∧
      n.name? .securityGroup none ≠ n'.name? .securityGroup none := by
  intro n n'
  have hclaim : Rules.checkLabel "claimName" n.claimName 30 = .ok () :=
    Fallible.toOption_eq_some_iff.1 (by decide)
  have hclaim' : Rules.checkLabel "claimName" n'.claimName 30 = .ok () :=
    Fallible.toOption_eq_some_iff.1 (by decide)
  have hsuffix : Rules.checkLabel "environmentSuffix" n.suffix 20 = .ok () :=
    Fallible.toOption_eq_some_iff.1 (by decide)
  have hasked : Asked .securityGroup none :=
    asked_iff.2 ⟨.securityGroup, by decide +kernel, rfl, rfl, rfl⟩
  have hdigits : shortDigest (n.claimName ++ n.tail .securityGroup none) ≠
      shortDigest (n'.claimName ++ n'.tail .securityGroup none) := by decide +kernel
  refine ⟨hclaim, hclaim', hsuffix, rfl, hasked, hdigits, ?_⟩
  rw [Ne, name?_eq_name?_iff hclaim hclaim' hsuffix rfl hasked hdigits]
  decide +kernel

/-- **A claim can take another one's name**: the second claim is called what
the first one's security group is shortened to. -/
theorem imitator_shares_name :
    let n := ofClaimName "analytics-vector-store-primary"
    let n' := ofClaimName "analytics-vector-s-54e01ac5"
    Rules.checkLabel "claimName" n.claimName 30 = .ok () ∧
      Rules.checkLabel "claimName" n'.claimName 30 = .ok () ∧
      Rules.checkLabel "environmentSuffix" n.suffix 20 = .ok () ∧ n'.suffix = n.suffix ∧
      Asked .securityGroup none ∧ n.claimName ≠ n'.claimName ∧
      shortDigest (n.claimName ++ n.tail .securityGroup none) = "54e01ac5" ∧
      shortDigest (n'.claimName ++ n'.tail .securityGroup none) = "4e0dc377" ∧
      n.name? .securityGroup none =
        some "analytics-vector-s-54e01ac5-security-group-production-us-west-2" ∧
      n'.name? .securityGroup none =
        some "analytics-vector-s-54e01ac5-security-group-production-us-west-2" := by
  intro n n'
  refine ⟨Fallible.toOption_eq_some_iff.1 (by decide), Fallible.toOption_eq_some_iff.1 (by decide),
    Fallible.toOption_eq_some_iff.1 (by decide), rfl, ?_, by decide, ?_, ?_, ?_, ?_⟩
  · exact asked_iff.2 ⟨.securityGroup, by decide +kernel, rfl, rfl, rfl⟩
  all_goals decide +kernel

end Namer

end ClusterBlueprint
