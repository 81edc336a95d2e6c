import ClusterBlueprint.Proofs.Blueprint.Replay
/-!
# Reconcile — one password for a whole run

A database keeps its password over a run: once a step has shown one, no
later step asks the source for another, and every later blueprint shows the
same (`password_stable`). What a step may do is said once for a single
compilation: it draws at most one password (`ofClaim_state`), what it shows
passes its rule (`checkPassword_shown`), and with a password written into
the claim it draws none and shows that one (`ofClaim_put`). To speak of the
draws of a run, the source counts them (`counted`), which changes nothing
else (`run_counted`).
-/

namespace ClusterBlueprint

variable {σ : Type} {config : Config} {source : PasswordSource σ}

namespace Scheme

variable {s : Scheme} {state : σ}

/-- A scheme leaves the source as it was, or after one draw. -/
theorem password_state (s : Scheme) (source : PasswordSource σ) (state : σ) :
    (s.password source state).2 = state ∨
      (s.password source state).2 = (source.draw s.config.passwordLength state).2 := by
  rcases s.password_cases source state with ⟨p, -, heq⟩ | ⟨-, -, heq⟩ | ⟨-, -, heq⟩
  · exact Or.inl (by rw [heq])
  · exact Or.inr (by rw [heq])
  · exact Or.inl (by rw [heq])

/-- The password of a scheme passes its rule, if those of the source do. -/
theorem checkPassword_password (hs : s.Sound)
    (hsource : ∀ state, Rules.checkPassword (source.draw s.config.passwordLength state).1 = .ok ())
    {p : String} (hp : (s.password source state).1 = some p) : Rules.checkPassword p = .ok () := by
  rcases s.password_cases source state with ⟨q, hcarried, heq⟩ | ⟨-, -, heq⟩ | ⟨-, -, heq⟩
  · rw [heq] at hp
    obtain rfl : q = p := Option.some.inj hp
    exact Spec.checkPassword_of_check hs.checked hcarried
  · rw [heq] at hp
    obtain rfl := Option.some.inj hp
    exact hsource state
  · rw [heq] at hp
    cases hp

end Scheme

namespace Blueprint

variable {claim : Json} {state : σ} {b : Blueprint} {p : String}

/-! ## One compilation -/

/-- **A compilation draws at most one password.** -/
theorem ofClaim_state (config : Config) (source : PasswordSource σ) (claim : Json) (state : σ) :
    (ofClaim config source claim state).2 = state ∨
      (ofClaim config source claim state).2 = (source.draw config.passwordLength state).2 := by
  rcases ofClaim_cases config source claim state with ⟨cause, heq⟩ | ⟨spec, s, -, hof, heq⟩
  · rw [heq]
    exact Or.inl rfl
  · obtain ⟨-, -, rfl⟩ := Scheme.sound_of hof
    rw [heq]
    exact Scheme.password_state s source state

/-- What a blueprint shows passes its rule, if what the source gives
does. -/
theorem checkPassword_shown
    (hsource : ∀ state, Rules.checkPassword (source.draw config.passwordLength state).1 = .ok ())
    (h : (ofClaim config source claim state).1 = .ok b)
    (hp : b.connection.masterPassword = some p) : Rules.checkPassword p = .ok () := by
  obtain ⟨spec, s, -, hof, hb⟩ := exists_scheme h
  obtain ⟨hs, -, rfl⟩ := Scheme.sound_of hof
  rw [Scheme.masterPassword_eq hs hb] at hp
  exact Scheme.checkPassword_password hs hsource hp

/-- **A claim with a password written into it draws none and shows that
one.** This holds of any claim, also of one that failed before. -/
theorem ofClaim_put (hp : Rules.checkPassword p = .ok ()) (config : Config)
    (source : PasswordSource σ) (claim : Json) (state : σ) :
    let outcome := ofClaim config source (claim.put "masterPassword" (.text p)) state
    outcome.2 = state ∧ ∀ b, outcome.1 = .ok b → b.connection.masterPassword = some p := by
  intro outcome
  rcases ofClaim_cases config source (claim.put "masterPassword" (.text p)) state with
    ⟨cause, heq⟩ | ⟨spec, s, hspec, hof, heq⟩
  · have houtcome : outcome = (.error (.fault cause), state) := heq
    rw [houtcome]
    exact ⟨rfl, fun b hb => nomatch hb⟩
  · obtain ⟨hs, hsspec, -⟩ := Scheme.sound_of hof
    have hcarried : s.spec.masterPassword = some p := by
      rw [hsspec]
      exact Spec.masterPassword_of_put hp hspec
    have houtcome : outcome = (s.blueprint (some p), state) := by
      rw [show outcome = _ from heq, Scheme.password_of_carried hcarried]
    rw [houtcome]
    exact ⟨rfl, fun b hb => Scheme.masterPassword_eq hs hb⟩

end Blueprint

/-! ## Counting draws -/

/-- A source that counts the passwords drawn from it. -/
def PasswordSource.counted (source : PasswordSource σ) : PasswordSource (σ × Nat) where
  draw length state :=
    let (fresh, rest) := source.draw length state.1
    (fresh, (rest, state.2 + 1))

theorem Scheme.password_counted (s : Scheme) (source : PasswordSource σ) (state : σ × Nat) :
    s.password source state.1 =
      ((s.password source.counted state).1, (s.password source.counted state).2.1) := by
  unfold password
  split <;> rfl

/-- Counting changes neither the blueprint nor the source. -/
theorem Blueprint.ofClaim_counted (config : Config) (source : PasswordSource σ) (claim : Json)
    (state : σ × Nat) :
    ofClaim config source claim state.1 =
      ((ofClaim config source.counted claim state).1,
        (ofClaim config source.counted claim state).2.1) := by
  cases hspec : Spec.ofClaim claim with
  | error cause => simp only [ofClaim, hspec]
  | ok spec =>
    cases hof : Scheme.of config spec with
    | error cause => simp only [ofClaim, hspec, ofSpec_of_error hof]
    | ok s => rw [ofClaim_eq hspec hof, ofClaim_eq hspec hof, s.password_counted source state]

/-- And each compilation adds at most one to the count. -/
theorem Blueprint.count_ofClaim (config : Config) (source : PasswordSource σ) (claim : Json)
    (state : σ × Nat) :
    state.2 ≤ (ofClaim config source.counted claim state).2.2 ∧
      (ofClaim config source.counted claim state).2.2 ≤ state.2 + 1 := by
  rcases ofClaim_state config source.counted claim state with h | h
  · rw [h]
    omega
  · rw [h]
    show state.2 ≤ state.2 + 1 ∧ state.2 + 1 ≤ state.2 + 1
    omega

/-! ## Runs -/

namespace Session

/-- The outcomes of a run in which every claim carries the last known
password. -/
def reconcile (config : Config) (source : PasswordSource σ) (s : Session σ) (claims : List Json) :
    List (Except Stop Blueprint × Session σ) :=
  s.run config source (claims.map fun claim => ⟨claim, true⟩)

variable {s : Session σ} {claim : Json} {claims : List Json}

/-- A run makes the first step and goes on from there. -/
theorem reconcile_cons (config : Config) (source : PasswordSource σ) (s : Session σ) (claim : Json)
    (claims : List Json) :
    s.reconcile config source (claim :: claims) =
      s.advance config source ⟨claim, true⟩ ::
        (s.advance config source ⟨claim, true⟩).2.reconcile config source claims := rfl

/-- **Counting changes no run.** -/
theorem run_counted (config : Config) (source : PasswordSource σ) (s : Session (σ × Nat))
    (steps : List Step) :
    (s.run config source.counted steps).map
        (fun o => (o.1, (⟨o.2.last, o.2.source.1⟩ : Session σ))) =
      run config source ⟨s.last, s.source.1⟩ steps := by
  induction steps generalizing s with
  | nil => rfl
  | cons step steps ih =>
    have hstep : advance config source ⟨s.last, s.source.1⟩ step =
        ((s.advance config source.counted step).1,
          ⟨(s.advance config source.counted step).2.last,
            (s.advance config source.counted step).2.source.1⟩) := by
      simp only [advance, Blueprint.ofClaim_counted config source _ s.source]
    rw [run, List.map_cons, ih, run, hstep]

/-! ### The known password -/

/-- The password that a session knows, if any, passes its rule. -/
def Accepted (s : Session σ) : Prop :=
  ∀ p, s.last = some p → Rules.checkPassword p = .ok ()

/-- A session that starts knows no password. -/
theorem accepted_start (state : σ) : (start state).Accepted := fun _ hp => nomatch hp

/-- The result of a step is that of its claim. -/
theorem result_advance (config : Config) (source : PasswordSource σ) (s : Session σ) (step : Step) :
    (s.advance config source step).1 =
      (Blueprint.ofClaim config source (step.effective s.last) s.source).1 := rfl

/-- After a step that succeeds, what its blueprint shows is known. -/
theorem last_advance {step : Step} {b : Blueprint} (h : (s.advance config source step).1 = .ok b) :
    (s.advance config source step).2.last = b.connection.masterPassword := by
  rw [result_advance] at h
  simp only [advance, h]

/-- **A step keeps the known password one that passes.** -/
theorem Accepted.advance (h : s.Accepted)
    (hsource : ∀ state, Rules.checkPassword (source.draw config.passwordLength state).1 = .ok ())
    (step : Step) : (s.advance config source step).2.Accepted := by
  intro p hp
  cases hresult : (Blueprint.ofClaim config source (step.effective s.last) s.source).1 with
  | error cause =>
    simp only [Session.advance, hresult] at hp
    exact h p hp
  | ok b =>
    rw [last_advance hresult] at hp
    exact Blueprint.checkPassword_shown hsource hresult hp

/-- **A step with a known password** leaves it and the source as they are,
and shows it if it succeeds. -/
theorem advance_of_known {p : String} (hlast : s.last = some p)
    (hp : Rules.checkPassword p = .ok ()) (config : Config) (source : PasswordSource σ)
    (claim : Json) :
    (s.advance config source ⟨claim, true⟩).2 = s ∧
      ∀ b, (s.advance config source ⟨claim, true⟩).1 = .ok b →
        b.connection.masterPassword = some p := by
  obtain ⟨hstate, hshown⟩ := Blueprint.ofClaim_put hp config source claim s.source
  obtain ⟨last, state⟩ := s
  obtain rfl : last = some p := hlast
  refine ⟨?_, hshown⟩
  cases hresult :
      (Blueprint.ofClaim config source (claim.put "masterPassword" (.text p)) state).1 with
  | error cause => simp only [advance, Step.effective, hresult, hstate]
  | ok b => simp only [advance, Step.effective, hresult, hstate, hshown b hresult]

/-- **And so does every step after it.** -/
theorem reconcile_of_known {p : String} (hlast : s.last = some p)
    (hp : Rules.checkPassword p = .ok ()) (config : Config) (source : PasswordSource σ)
    (claims : List Json) :
    ∀ o ∈ s.reconcile config source claims,
      o.2 = s ∧ ∀ b, o.1 = .ok b → b.connection.masterPassword = some p := by
  induction claims with
  | nil => exact fun o ho => nomatch ho
  | cons claim claims ih =>
    -- the step leaves the session as it is, so the rest runs from the same one
    obtain ⟨hsession, hshown⟩ := advance_of_known hlast hp config source claim
    intro o ho
    rw [reconcile_cons, hsession] at ho
    rcases List.mem_cons.1 ho with rfl | ho
    · exact ⟨hsession, hshown⟩
    · exact ih o ho

/-! ### Whole runs -/

/-- What follows a step of a run is the run from the session after it. -/
theorem exists_rest (h : s.Accepted)
    (hsource : ∀ state, Rules.checkPassword (source.draw config.passwordLength state).1 = .ok ())
    {before after : List (Except Stop Blueprint × Session σ)} {result : Except Stop Blueprint}
    {t : Session σ} (heq : s.reconcile config source claims = before ++ (result, t) :: after) :
    t.Accepted ∧ (∀ b, result = .ok b → t.last = b.connection.masterPassword) ∧
      ∃ rest, after = t.reconcile config source rest := by
  induction claims generalizing s before with
  | nil => exact absurd heq (by simp [reconcile, run])
  | cons claim claims ih =>
    rw [reconcile_cons] at heq
    have hnext := h.advance hsource ⟨claim, true⟩
    cases before with
    | nil =>
      obtain ⟨hfirst, hafter⟩ := List.cons.inj heq
      obtain rfl : (s.advance config source ⟨claim, true⟩).2 = t := congrArg Prod.snd hfirst
      exact ⟨hnext, fun b hb => last_advance ((congrArg Prod.fst hfirst).trans hb), claims,
        hafter.symm⟩
    | cons o before => exact ih hnext (List.cons.inj heq).2

/-- The count of a run never falls, and each step adds at most one to
it. -/
theorem isChain_count (config : Config) (source : PasswordSource σ) (s : Session (σ × Nat))
    (claims : List Json) :
    (s.source.2 :: (s.reconcile config source.counted claims).map fun o => o.2.source.2).IsChain
      fun m n => m ≤ n ∧ n ≤ m + 1 := by
  induction claims generalizing s with
  | nil => exact .singleton _
  | cons claim claims ih =>
    rw [reconcile_cons, List.map_cons]
    refine .cons_cons ?_ (ih _)
    exact Blueprint.count_ofClaim config source _ s.source

/-- **The password of a run is stable.** However the claims change and
whichever of them fail, each step draws at most one password. Once a step
has shown one, none is drawn any more, and every later blueprint shows that
one. -/
theorem password_stable (config : Config) (source : PasswordSource σ)
    (hsource : ∀ state, Rules.checkPassword (source.draw config.passwordLength state).1 = .ok ())
    (claims : List Json) (state : σ) :
    let outcomes := (start (state, 0)).reconcile config source.counted claims
    (0 :: outcomes.map fun o => o.2.source.2).IsChain (fun m n => m ≤ n ∧ n ≤ m + 1) ∧
      ∀ before b s after p, outcomes = before ++ (.ok b, s) :: after →
        b.connection.masterPassword = some p →
          ∀ o ∈ after, o.2.source = s.source ∧ o.2.last = some p ∧
            ∀ b', o.1 = .ok b' → b'.connection.masterPassword = some p := by
  intro outcomes
  refine ⟨isChain_count config source (start (state, 0)) claims, ?_⟩
  intro before b s after p heq hshown o ho
  have hcounted : ∀ state, Rules.checkPassword
      (source.counted.draw config.passwordLength state).1 = .ok () := fun state => hsource state.1
  obtain ⟨haccepted, hlast, rest, rfl⟩ := exists_rest (accepted_start _) hcounted heq
  have hknown : s.last = some p := (hlast b rfl).trans hshown
  obtain ⟨rfl, hlater⟩ :=
    reconcile_of_known hknown (haccepted p hknown) config source.counted rest o ho
  exact ⟨rfl, hknown, hlater⟩

/-- The password of the first claim stays when the next one wants none. -/
theorem password_stable_of_two :
    let claim := Json.object [("region", .text "us-west-2")]
    let next := Json.object [("generatePassword", .bool false), ("region", .text "us-west-2")]
    let source := PasswordSource.constant "correct-horse-battery"
    ∃ b s after, (start ((), 0)).reconcile {} source.counted [claim, next] = (.ok b, s) :: after ∧
      b.connection.masterPassword = some "correct-horse-battery" ∧
        ∀ o ∈ after, o.2.source = s.source ∧
          ∀ b', o.1 = .ok b' → b'.connection.masterPassword = some "correct-horse-battery" := by
  intro claim next source
  have haccepted : Rules.checkPassword "correct-horse-battery" = .ok () :=
    Fallible.toOption_eq_some_iff.1 (by decide +kernel)
  have hsource : ∀ state : Unit, Rules.checkPassword
      (source.draw ({} : Config).passwordLength state).1 = .ok () := fun _ => haccepted
  have hletters : Region.letters? "us-west-2" = some ['a', 'b', 'c', 'd'] := by decide +kernel
  obtain ⟨b, hb, hshown⟩ : ∃ b, (Blueprint.ofClaim {} source.counted claim ((), 0)).1 = .ok b ∧
      b.connection.masterPassword = some "correct-horse-battery" :=
    Blueprint.exists_ofClaim_region rfl (by decide +kernel) (by decide) hletters (by decide)
      source.counted ((), 0)
  clear_value claim next
  have hfirst : ((start ((), 0)).advance {} source.counted ⟨claim, true⟩).1 = .ok b := by
    rw [result_advance]
    exact hb
  obtain ⟨-, hlater⟩ := password_stable {} source hsource [claim, next] ()
  have heq := reconcile_cons {} source.counted (start ((), 0)) claim [next]
  generalize (start ((), 0)).advance {} source.counted ⟨claim, true⟩ = first at *
  obtain ⟨result, s⟩ := first
  obtain rfl : result = .ok b := hfirst
  refine ⟨b, s, _, heq, hshown, fun o ho => ?_⟩
  obtain ⟨hsame, -, hshows⟩ := hlater [] b s _ _ heq hshown o ho
  exact ⟨hsame, hshows⟩

end Session

end ClusterBlueprint
