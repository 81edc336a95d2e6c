import ClusterBlueprint.Proofs.Blueprint.Outcome
import ClusterBlueprint.Proofs.Claim.Carried
import ClusterBlueprint.Reconcile
/-!
# Blueprint — compiling a claim again

A blueprint depends on the source of passwords through one password alone,
and shows that password in its connection. So a claim that is handed the
password back compiles to the same blueprint without the source
(`ofClaim_replay`): the spec differs in its password, which nothing that is
drawn looks at, and the password that is drawn with is the one that the
source gave.
-/

namespace ClusterBlueprint

namespace Scheme

variable {σ τ : Type} {config : Config} {spec : Spec} {s : Scheme} {b : Blueprint}

/-! ## A scheme with a password written into it -/

/-- The scheme whose spec carries a password. -/
def carrying (s : Scheme) (p : String) : Scheme :=
  { s with spec := { s.spec with masterPassword := some p } }

/-- It is planned from the spec with the password. -/
theorem of_carrying {p : String} (h : Scheme.of config spec = .ok s)
    (hp : Rules.checkPassword p = .ok ()) :
    Scheme.of config { spec with masterPassword := some p } = .ok (s.carrying p) := by
  obtain ⟨letters, hcheck, hletters, hle, rfl⟩ := of_eq_ok_iff.1 h
  exact of_eq_ok_iff.2 ⟨letters, Spec.check_password hcheck hp, hletters, hle, rfl⟩

/-- **What is drawn does not look at the password of the spec.** -/
theorem blueprint_carrying {p : String} {password : Option String} (hs : s.Sound)
    (hs' : (s.carrying p).Sound) (h : s.blueprint password = .ok b) :
    (s.carrying p).blueprint password =
      .ok { b with spec := { b.spec with masterPassword := some p } } := by
  obtain ⟨g, hg, rfl⟩ := exists_of_blueprint_eq_ok hs h
  have hcarrying : (s.carrying p).assemble (s.carrying p).names password =
      s.assemble s.names password := rfl
  rw [blueprint_eq hs', hcarrying, hg]
  rfl

end Scheme

namespace Blueprint

variable {σ : Type} {config : Config} {source : PasswordSource σ} {claim : Json} {state : σ}
  {b : Blueprint}

/-- A claim with a spec and a scheme is drawn with its password. -/
theorem ofClaim_eq {spec : Spec} {s : Scheme} (hspec : Spec.ofClaim claim = .ok spec)
    (hof : Scheme.of config spec = .ok s) (source : PasswordSource σ) (state : σ) :
    ofClaim config source claim state =
      (s.blueprint (s.password source state).1, (s.password source state).2) := by
  rw [ofClaim, hspec]
  exact ofSpec_eq hof source state

/-- **A claim is refused before a password is looked for, or has a scheme
that is drawn.** -/
theorem ofClaim_cases (config : Config) (source : PasswordSource σ) (claim : Json) (state : σ) :
    (∃ cause, ofClaim config source claim state = (.error (.fault cause), state)) ∨
      ∃ spec s, Spec.ofClaim claim = .ok spec ∧ Scheme.of config spec = .ok s ∧
        ofClaim config source claim state =
          (s.blueprint (s.password source state).1, (s.password source state).2) := by
  cases hspec : Spec.ofClaim claim with
  | error cause => exact Or.inl ⟨cause, by rw [ofClaim, hspec]⟩
  | ok spec =>
    cases hof : Scheme.of config spec with
    | error cause =>
      refine Or.inl ⟨cause, ?_⟩
      rw [ofClaim, hspec]
      exact ofSpec_of_error hof source state
    | ok s => exact Or.inr ⟨spec, s, rfl, hof, ofClaim_eq hspec hof source state⟩

/-- A claim that compiles has a scheme. -/
theorem exists_scheme (h : (ofClaim config source claim state).1 = .ok b) :
    ∃ spec s, Spec.ofClaim claim = .ok spec ∧ Scheme.of config spec = .ok s ∧
      s.blueprint (s.password source state).1 = .ok b := by
  rcases ofClaim_cases config source claim state with ⟨cause, heq⟩ | ⟨spec, s, hspec, hof, heq⟩
  · rw [heq] at h
    cases h
  · rw [heq] at h
    exact ⟨spec, s, hspec, hof, h⟩

/-- **A claim that names a region with enough zones compiles**, with a
fresh password. -/
theorem exists_ofClaim_region {region : String} {letters : List Char}
    (hh : config.hashLength = 10) (htrim : Text.trim region = region) (hne : region ≠ "")
    (hletters : Region.letters? region = some letters) (hthree : 3 ≤ letters.length)
    (source : PasswordSource σ) (state : σ) :
    ∃ b, (ofClaim config source (.object [("region", .text region)]) state).1 = .ok b ∧
      b.connection.masterPassword = some (source.draw config.passwordLength state).1 := by
  have hspec := Spec.ofClaim_region htrim hne
  have hcheck : (Spec.ofRegion region).check = .ok () := Spec.check_ofRegion (htrim.symm ▸ hne)
  obtain ⟨b, hb⟩ := exists_ofSpec_of_unnamed hh hcheck hletters hthree rfl source state
  have hb : (ofClaim config source (.object [("region", .text region)]) state).1 = .ok b := by
    rw [ofClaim, hspec]
    exact hb
  refine ⟨b, hb, ?_⟩
  obtain ⟨spec, s, hread, hof, hdrawn⟩ := exists_scheme hb
  obtain rfl : Spec.ofRegion region = spec := Except.ok.inj (hspec.symm.trans hread)
  obtain ⟨hs, hsspec, rfl⟩ := Scheme.sound_of hof
  have hfresh := Scheme.password_of_fresh (s := s) (by rw [hsspec]; rfl) (by rw [hsspec]; rfl)
    source state
  rw [Scheme.masterPassword_eq hs hdrawn, hfresh]

/-- **A claim that is compiled again, with the password of the first time,
gives the same blueprint and leaves every source untouched.** -/
theorem ofClaim_replay (h : (ofClaim config source claim state).1 = .ok b)
    (hpassword : ∀ p, b.connection.masterPassword = some p → Rules.checkPassword p = .ok ()) :
    ∃ b' : Blueprint,
      (∀ {τ : Type} (other : PasswordSource τ) (state' : τ),
        ofClaim config other ((Step.mk claim true).effective b.connection.masterPassword) state' =
          (.ok b', state')) ∧
      b'.graph = b.graph ∧ b'.plan = b.plan ∧ b'.zones = b.zones ∧
      b'.connection = b.connection ∧ b'.toJson = b.toJson := by
  obtain ⟨spec, s, hspec, hof, hb⟩ := exists_scheme h
  obtain ⟨hs, -⟩ := Scheme.sound_of hof
  have hshown := Scheme.masterPassword_eq hs hb
  cases hmaster : b.connection.masterPassword with
  | none =>
    have hnone : (s.password source state).1 = none := hshown ▸ hmaster
    rw [hnone] at hb
    refine ⟨b, fun other state' => ?_, rfl, rfl, rfl, rfl, rfl⟩
    show ofClaim config other claim state' = _
    -- no password was shown, so none was wanted
    rcases s.password_cases source state with ⟨p, -, heq⟩ | ⟨-, -, heq⟩ | ⟨hcarried, hunwanted, -⟩
    · rw [heq] at hnone
      cases hnone
    · rw [heq] at hnone
      cases hnone
    · rw [ofClaim_eq hspec hof, Scheme.password_of_unwanted hcarried hunwanted, hb]
  | some p =>
    have hp := hpassword p hmaster
    have hdrawn : s.blueprint (some p) = .ok b := by
      rw [← hmaster, hshown, hb]
    have hof' := Scheme.of_carrying hof hp
    refine ⟨{ b with spec := { b.spec with masterPassword := some p } }, fun other state' => ?_,
      rfl, rfl, rfl, rfl, rfl⟩
    show ofClaim config other (claim.put "masterPassword" (.text p)) state' = _
    have hcarried := Scheme.password_of_carried (s := s.carrying p) rfl other state'
    rw [ofClaim_eq (Spec.ofClaim_put hspec hp) hof', hcarried,
      Scheme.blueprint_carrying hs (Scheme.sound_of hof').1 hdrawn]

/-- A claim that names its region gives the same graph again. -/
theorem ofClaim_replay_region :
    let claim := Json.object [("region", .text "us-west-2")]
    let source := PasswordSource.constant "correct-horse-battery"
    ∃ b b' : Blueprint, (ofClaim {} source claim ()).1 = .ok b ∧
      (ofClaim {} (.constant "") (claim.put "masterPassword" (.text "correct-horse-battery")) ()).1 =
        .ok b' ∧ b'.graph = b.graph := by
  intro claim source
  have hletters : Region.letters? "us-west-2" = some ['a', 'b', 'c', 'd'] := by decide +kernel
  obtain ⟨b, hb, hshown⟩ : ∃ b, (ofClaim {} source claim ()).1 = .ok b ∧
      b.connection.masterPassword = some "correct-horse-battery" :=
    exists_ofClaim_region rfl (by decide +kernel) (by decide) hletters (by decide) source ()
  have hpassword : ∀ p, b.connection.masterPassword = some p → Rules.checkPassword p = .ok () := by
    intro p hp
    obtain rfl : "correct-horse-battery" = p := Option.some.inj (hshown.symm.trans hp)
    exact Fallible.toOption_eq_some_iff.1 (by decide +kernel)
  obtain ⟨b', hb', hgraph, -⟩ := ofClaim_replay hb hpassword
  rw [hshown] at hb'
  exact ⟨b, b', hb, congrArg Prod.fst (hb' (.constant "") ()), hgraph⟩

end Blueprint

end ClusterBlueprint
