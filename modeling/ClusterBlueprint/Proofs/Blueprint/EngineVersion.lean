import ClusterBlueprint.Proofs.Blueprint.Kinds
import ClusterBlueprint.Proofs.Text.Numeral
/-!
# Blueprint — the engine version and its parameters

The cluster is given the version as the claim writes it. The two parameter
groups are made for a number that is read from it, and show that number in
their family and in their name. Reading accepts every spelling of the
number in front of the dot, with a sign or with zeros
(`checkEngineVersion_eq_ok_iff`). So the three agree on the number, and on
its text only where the claim writes it plainly (`ofClaim_showsVersion`);
a claim that does not still compiles (`sign_stays_in_version`).
-/

namespace ClusterBlueprint

namespace Rules

open Text

variable {version : String} {n : Nat}

/-- A version of digits on both sides of its dot, with a sign or zeros in
front. -/
structure IsVersion (version : String) (plus : Bool) (zeros n : Nat) : Prop where
  /-- The engine has it. -/
  recent : 11 ≤ n
  bounded : n < 2 ^ 32
  text : ∃ minor, minor ≠ [] ∧ (∀ c ∈ minor, c.isDigit = true) ∧
    version.toList = spelling plus zeros n ++ '.' :: minor

/-- **The versions that pass the check.** -/
theorem checkEngineVersion_eq_ok_iff :
    checkEngineVersion version = .ok n ↔ ∃ plus zeros, IsVersion version plus zeros n := by
  have hcheck : checkEngineVersion version = .ok n ↔ readMajor version = some n ∧ 11 ≤ n := by
    unfold checkEngineVersion
    cases readMajor version with
    | none => simp
    | some major => by_cases hold : 11 ≤ major <;> simp [Option.filter_some, hold] <;> omega
  rw [hcheck, readMajor]
  constructor
  · rintro ⟨hread, hold⟩
    split at hread
    · next major minor hsplit =>
      obtain ⟨⟨hne, hminor⟩, hmajor⟩ := Option.ite_none_right_eq_some.1 hread
      obtain ⟨hlt, plus, zeros, rfl⟩ := readUnsigned_eq_some_iff.1 hmajor
      exact ⟨plus, zeros, hold, hlt, minor, hne, List.all_eq_true.1 hminor,
        eq_append_of_splitFirst hsplit⟩
    · cases hread
  · rintro ⟨plus, zeros, hold, hlt, minor, hne, hminor, htext⟩
    refine ⟨?_, hold⟩
    rw [htext, splitFirst_append (not_mem_spelling (by decide) (by decide))]
    simp only
    rw [if_pos ⟨hne, List.all_eq_true.2 hminor⟩]
    exact readUnsigned_eq_some_iff.2 ⟨hlt, plus, zeros, rfl⟩

end Rules

/-- The version of a spec that passes, and its number. -/
theorem Spec.isVersion_of_check {s : Spec} (h : s.check = .ok ()) :
    ∃ plus zeros, Rules.IsVersion s.engineVersion plus zeros s.majorVersion := by
  refine Rules.checkEngineVersion_eq_ok_iff.1 ?_
  have hrule := ruleOf_of_check h .engineVersion
  simp only [ruleOf] at hrule
  unfold majorVersion
  cases hread : Rules.checkEngineVersion s.engineVersion with
  | error cause => rw [hread] at hrule; cases hrule
  | ok n => rfl

namespace Blueprint

open Naming Text

/-- A version and the text of the number that the parameters are made for. -/
structure ShowsVersion (b : Blueprint) (version major : String) : Prop where
  /-- The version is that of the only cluster. -/
  cluster : ∃ n, b.graph.ofKind .cluster = [n] ∧
    n.property? "engineVersion" = some (.text version)
  /-- The number is in the family of the only group of each kind, and the
  last but one of the words in its name. -/
  group : ∀ kind ∈ [ResourceKind.clusterParameterGroup, .parameterGroup], ∃ n digest,
    b.graph.ofKind kind = [n] ∧
      n.property? "family" = some (.text ("aurora-postgresql" ++ major)) ∧
        [("pg" ++ major).toList, digest] <:+ words n.name.toList

/-- The version is a number of 11 or later, a dot and digits, and the
number is the text in family and names. -/
def VersionAgrees (b : Blueprint) : Prop :=
  ∃ (major : Nat) (minor : String), 11 ≤ major ∧ minor ≠ "" ∧
    (∀ c ∈ minor.toList, c.isDigit = true) ∧
      b.ShowsVersion (toString major ++ "." ++ minor) (toString major)

namespace ShowsVersion

variable {b : Blueprint} {version major version' major' : String}

/-- A blueprint shows one version and one number. -/
theorem unique (h : b.ShowsVersion version major) (h' : b.ShowsVersion version' major') :
    version = version' ∧ major = major' := by
  obtain ⟨n, hn, hversion⟩ := h.cluster
  obtain ⟨n', hn', hversion'⟩ := h'.cluster
  obtain ⟨g, -, hg, hfamily, -⟩ := h.group .parameterGroup (by simp)
  obtain ⟨g', -, hg', hfamily', -⟩ := h'.group .parameterGroup (by simp)
  obtain rfl : n = n' := List.singleton_inj.1 (hn.symm.trans hn')
  obtain rfl : g = g' := List.singleton_inj.1 (hg.symm.trans hg')
  refine ⟨Json.text.inj (Option.some.inj (hversion.symm.trans hversion')), ?_⟩
  have heq := Json.text.inj (Option.some.inj (hfamily.symm.trans hfamily'))
  rw [← String.toList_inj, String.toList_append, String.toList_append] at heq
  exact String.toList_inj.1 (List.append_cancel_left heq)

end ShowsVersion

end Blueprint

namespace Scheme

open Naming

variable {s : Scheme} {password : Option String} {g : Graph} {p : Part}

/-- The name of a versioned part ends in the version and a digest. -/
theorem version_suffix_words_nameOf (hv : p.isVersioned = true) :
    [s.parameterVersion.toList, s.digits p] <:+ words (s.nameOf p).toList := by
  rw [words_nameOf, words_ending hv, ← List.append_assoc]
  exact List.suffix_append _ _

/-- A parameter group shows the number in its family and in its name. -/
theorem exists_versioned (hg : g.nodes.map Node.draft = s.drafts password)
    (hv : p.isVersioned = true) (hhas : ∀ e : Extent, e.Has p) (hsingle : p.extra = none)
    (hfamily : (s.drawn password p).properties.get? "family" =
      some (.text s.spec.parameterFamily)) :
    ∃ n digest, g.ofKind p.kind = [n] ∧
      n.property? "family" = some (.text s.spec.parameterFamily) ∧
        [s.parameterVersion.toList, digest] <:+ words n.name.toList := by
  have hp : p ∈ s.ground password := Extent.mem_parts.2 (hhas _)
  obtain ⟨n, hn, hdraft⟩ := exists_node hg (Or.inl hp)
  refine ⟨n, s.digits p, ofKind_eq_singleton hg hsingle hn hdraft,
    (property?_of_draft hdraft _).trans hfamily, ?_⟩
  rw [name_of_ground hp hdraft]
  exact version_suffix_words_nameOf hv

/-- **What is drawn shows the version of the spec, and its number.** -/
theorem showsVersion (hg : g.nodes.map Node.draft = s.drafts password) :
    (s.blueprintOf password g).ShowsVersion s.spec.engineVersion
      (toString s.spec.majorVersion) := by
  obtain ⟨c, hc, hcluster⟩ := exists_node hg (p := .cluster) (Or.inr rfl)
  refine ⟨⟨c, ofKind_eq_singleton hg (p := .cluster) rfl hc hcluster,
    property?_of_draft hcluster _⟩, fun kind hkind => ?_⟩
  simp only [List.mem_cons, List.not_mem_nil, or_false] at hkind
  rcases hkind with rfl | rfl
  · exact exists_versioned (p := .clusterParameters) hg rfl (fun _ => trivial) rfl rfl
  · exact exists_versioned (p := .instanceParameters) hg rfl (fun _ => trivial) rfl rfl

end Scheme

namespace Blueprint

open Text

variable {σ : Type} {config : Config} {source : PasswordSource σ} {claim : Json} {state : σ}
  {b : Blueprint}

/-- A version agrees where nothing is in front of its number. -/
theorem versionAgrees_iff {version : String} {plus : Bool} {zeros n : Nat}
    (hversion : Rules.IsVersion version plus zeros n)
    (hshows : b.ShowsVersion version (toString n)) :
    b.VersionAgrees ↔ plus = false ∧ zeros = 0 := by
  obtain ⟨minor, hne, hminor, htext⟩ := hversion.text
  constructor
  · rintro ⟨m, digits, -, -, -, hself⟩
    obtain ⟨rfl, hnumber⟩ := hself.unique hshows
    -- both texts are split at their first dot
    have hsplit : splitFirst '.' (toString m ++ "." ++ digits).toList =
        some (Nat.toDigits 10 n, digits.toList) := by
      have hself : (toString m ++ "." ++ digits).toList =
          (toString n).toList ++ '.' :: digits.toList := by simp [hnumber]
      rw [hself, splitFirst_append (not_mem_toString (by decide)), toList_toString_nat]
    rw [htext, splitFirst_append (not_mem_spelling (by decide) (by decide))] at hsplit
    exact spelling_eq_toDigits_iff.1 (congrArg Prod.fst (Option.some.inj hsplit))
  · rintro ⟨rfl, rfl⟩
    have heq : toString n ++ "." ++ String.ofList minor = version := by
      rw [← String.toList_inj, htext]
      simp [spelling]
    exact ⟨n, String.ofList minor, hversion.recent, by simpa using hne, by simpa using hminor,
      heq ▸ hshows⟩

/-- **The version of a compiled claim.** The cluster has it as it is
written, family and names have its number, and they agree exactly when
nothing is written in front of the number. -/
theorem ofClaim_showsVersion (h : (ofClaim config source claim state).1 = .ok b) :
    Spec.ofClaim claim = .ok b.spec ∧
      b.ShowsVersion b.spec.engineVersion (toString b.spec.majorVersion) ∧
        ∃ plus zeros, Rules.IsVersion b.spec.engineVersion plus zeros b.spec.majorVersion ∧
          (b.VersionAgrees ↔ plus = false ∧ zeros = 0) := by
  obtain ⟨spec, -, hspec, -⟩ := exists_scheme h
  obtain ⟨plus, zeros, hversion⟩ := Spec.isVersion_of_check (Spec.check_of_ofClaim hspec)
  obtain ⟨s, password, g, -, rfl, -, hg, rfl⟩ := exists_drawn hspec h
  have hshows := Scheme.showsVersion hg
  exact ⟨hspec, hshows, plus, zeros, hversion, versionAgrees_iff hversion hshows⟩

/-- Version `15.04` agrees: a zero behind the dot is no matter. -/
theorem ofClaim_showsVersion_plain :
    let claim := Json.object [("engineVersion", .text "15.04"), ("region", .text "us-west-2")]
    let source := PasswordSource.constant "correct-horse-battery"
    ∃ b : Blueprint, (ofClaim {} source claim ()).1 = .ok b ∧ b.ShowsVersion "15.04" "15" ∧
      b.VersionAgrees := by
  intro claim source
  let spec : Spec := { Spec.ofRegion "us-west-2" with engineVersion := "15.04" }
  have hspec : Spec.ofClaim claim = .ok spec := Fallible.toOption_eq_some_iff.1 (by decide +kernel)
  obtain ⟨b, hb⟩ := exists_ofClaim_west hspec rfl rfl source ()
  obtain ⟨hread, hshows, plus, zeros, hversion, hiff⟩ := ofClaim_showsVersion hb
  have hnumber : spec.majorVersion = 15 := by decide +kernel
  rw [← Except.ok.inj (hspec.symm.trans hread), hnumber] at hversion hshows
  refine ⟨b, hb, hshows, hiff.2 ?_⟩
  -- the first character is neither a sign nor a zero
  obtain ⟨minor, -, -, htext⟩ := hversion.text
  have hone : spec.engineVersion.toList.head? = some '1' := by decide
  have hfirst := hone.symm.trans (congrArg List.head? htext)
  cases plus with
  | true => exact absurd (Option.some.inj hfirst) (by decide)
  | false =>
    cases zeros with
    | zero => exact ⟨rfl, rfl⟩
    | succ zeros => exact absurd (Option.some.inj hfirst) (by decide)

/-- **A sign stays in the version**: the cluster is given `+16.1`, which no
parameter group shows. -/
theorem sign_stays_in_version :
    let claim := Json.object [("engineVersion", .text "+16.1"), ("region", .text "us-west-2")]
    let source := PasswordSource.constant "correct-horse-battery"
    ∃ b : Blueprint, (ofClaim {} source claim ()).1 = .ok b ∧ b.ShowsVersion "+16.1" "16" ∧
      ¬ b.VersionAgrees := by
  intro claim source
  let spec : Spec := { Spec.ofRegion "us-west-2" with engineVersion := "+16.1" }
  have hspec : Spec.ofClaim claim = .ok spec := Fallible.toOption_eq_some_iff.1 (by decide +kernel)
  obtain ⟨b, hb⟩ := exists_ofClaim_west hspec rfl rfl source ()
  obtain ⟨s, password, g, -, hsspec, -, hg, rfl⟩ := exists_drawn hspec hb
  have hshows := Scheme.showsVersion hg
  have hnumber : spec.majorVersion = 16 := by decide +kernel
  rw [hsspec, hnumber] at hshows
  have hversion : Rules.IsVersion "+16.1" true 0 16 :=
    ⟨by decide, by decide, ['1'], by decide, by simp, rfl⟩
  exact ⟨_, hb, hshows, fun hagrees => nomatch ((versionAgrees_iff hversion hshows).1 hagrees).1⟩

end Blueprint

end ClusterBlueprint
