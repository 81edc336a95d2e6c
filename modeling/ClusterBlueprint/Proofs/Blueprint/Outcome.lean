import ClusterBlueprint.Proofs.Blueprint.Connected
import ClusterBlueprint.Proofs.Claim.Defaults
/-!
# Blueprint — how a compilation ends

A compilation of a spec can end in five ways, and which one it is can be
told before anything is drawn: the spec fails its check, its region is
unknown or has too few zones, a name that the claim chose for its cluster
clashes, or there is a blueprint. `ofSpec_outcome` says so for every spec.
Nothing else ever happens: no name has to be cut inside a character, and no
fault is an internal one.
-/

namespace ClusterBlueprint

namespace Scheme

variable {config : Config} {spec : Spec} {letters : List Char} {s : Scheme}
  {password : Option String}

/-! ## Planning -/

/-- The scheme of a spec in a region whose zones have the given letters. -/
def planned (config : Config) (spec : Spec) (letters : List Char) : Scheme where
  spec := spec
  config := config
  zones := ⟨spec.region, (letters.map spec.region.push).take spec.zoneCount⟩
  plan := ⟨spec.vpc,
    (Plan.places spec.zoneCount spec.tiers).map (Plan.allocationAt spec.vpc)⟩

/-- A spec that passes its check is planned in a region with enough
zones. -/
theorem sound_planned (h : spec.check = .ok ()) (hle : spec.zoneCount ≤ letters.length) :
    (planned config spec letters).Sound where
  checked := h
  zones := by simp [planned, hle]
  plan := rfl

/-- **Planning a spec**: its check, its region, and the zones of that. -/
theorem of_eq (config : Config) (spec : Spec) :
    Scheme.of config spec =
      match spec.check, Region.letters? spec.region with
      | .error cause, _ => .error cause
      | .ok _, none => .error (.unsupportedRegion spec.region)
      | .ok _, some letters =>
        if letters.length < spec.zoneCount then
          .error (.field "azCount" (.zonesMissing spec.region letters.length spec.zoneCount))
        else .ok (planned config spec letters) := by
  unfold Scheme.of
  cases hcheck : spec.check with
  | error cause => rfl
  | ok _ =>
    have hplan := Plan.allocate_eq_ok (Spec.checked_of_check hcheck).room
    cases hletters : Region.letters? spec.region with
    | none => simp [Region.resolve, hletters]
    | some letters =>
      simp only [Region.resolve, hletters, ZoneSet.select, hplan, Fallible.ok_bind,
        List.length_map]
      split
      · rfl
      · rfl

/-- **Specs that agree in what planning looks at are planned alike**: with
one fault, or with the zones of one region. -/
theorem of_alike (config : Config) {spec spec' : Spec} (hcheck : spec'.check = spec.check)
    (hregion : spec'.region = spec.region) (hzones : spec'.zoneCount = spec.zoneCount) :
    (∃ cause, Scheme.of config spec = .error cause ∧ Scheme.of config spec' = .error cause) ∨
      ∃ letters, Scheme.of config spec = .ok (planned config spec letters) ∧
        Scheme.of config spec' = .ok (planned config spec' letters) := by
  rw [of_eq, of_eq, hcheck, hregion, hzones]
  cases spec.check with
  | error cause => exact Or.inl ⟨cause, rfl, rfl⟩
  | ok _ =>
    cases Region.letters? spec.region with
    | none => exact Or.inl ⟨_, rfl, rfl⟩
    | some letters =>
      by_cases hlt : letters.length < spec.zoneCount
      · exact Or.inl ⟨_, if_pos hlt, if_pos hlt⟩
      · exact Or.inr ⟨letters, if_neg hlt, if_neg hlt⟩

/-- A scheme that was planned is that of its spec and its region. -/
theorem of_eq_ok_iff :
    Scheme.of config spec = .ok s ↔
      ∃ letters, spec.check = .ok () ∧ Region.letters? spec.region = some letters ∧
        spec.zoneCount ≤ letters.length ∧ s = planned config spec letters := by
  rw [of_eq]
  cases hcheck : spec.check with
  | error cause => simp
  | ok _ =>
    cases hletters : Region.letters? spec.region with
    | none => simp
    | some letters =>
      by_cases hlt : letters.length < spec.zoneCount
      · have hnot : ¬ spec.zoneCount ≤ letters.length := by omega
        simp [hlt, hnot]
      · have hle : spec.zoneCount ≤ letters.length := by omega
        simp [hlt, hle, eq_comm]

/-- And it is sound. -/
theorem sound_of (h : Scheme.of config spec = .ok s) :
    s.Sound ∧ s.spec = spec ∧ s.config = config := by
  obtain ⟨letters, hcheck, -, hle, rfl⟩ := of_eq_ok_iff.1 h
  exact ⟨sound_planned hcheck hle, rfl, rfl⟩

/-! ## The password -/

section Password

variable {σ : Type}

/-- A claim's password is taken, and no other is asked for. -/
theorem password_of_carried {p : String} (h : s.spec.masterPassword = some p)
    (source : PasswordSource σ) (state : σ) : s.password source state = (some p, state) := by
  rw [Scheme.password, h]

/-- A spec that wants a fresh password gets it from the source. -/
theorem password_of_fresh (hnone : s.spec.masterPassword = none)
    (hfresh : s.spec.generatePassword = true) (source : PasswordSource σ) (state : σ) :
    s.password source state = (some (source.draw s.config.passwordLength state).1,
      (source.draw s.config.passwordLength state).2) := by
  rw [Scheme.password, hnone, hfresh]

/-- A spec that wants none is drawn without. -/
theorem password_of_unwanted (hnone : s.spec.masterPassword = none)
    (hunwanted : s.spec.generatePassword = false) (source : PasswordSource σ) (state : σ) :
    s.password source state = (none, state) := by
  rw [Scheme.password, hnone, hunwanted]

/-- **Where the password of a scheme comes from.** -/
theorem password_cases (s : Scheme) (source : PasswordSource σ) (state : σ) :
    (∃ p, s.spec.masterPassword = some p ∧ s.password source state = (some p, state)) ∨
      (s.spec.masterPassword = none ∧ s.spec.generatePassword = true ∧
        s.password source state = (some (source.draw s.config.passwordLength state).1,
          (source.draw s.config.passwordLength state).2)) ∨
      (s.spec.masterPassword = none ∧ s.spec.generatePassword = false ∧
        s.password source state = (none, state)) := by
  cases hmaster : s.spec.masterPassword with
  | some p => exact Or.inl ⟨p, rfl, password_of_carried hmaster source state⟩
  | none =>
    cases hgenerate : s.spec.generatePassword with
    | true => exact Or.inr (Or.inl ⟨rfl, rfl, password_of_fresh hmaster hgenerate source state⟩)
    | false =>
      exact Or.inr (Or.inr ⟨rfl, rfl, password_of_unwanted hmaster hgenerate source state⟩)

end Password

/-! ## Drawing -/

/-- The blueprint of a graph. -/
def blueprintOf (s : Scheme) (password : Option String) (g : Graph) : Blueprint where
  spec := s.spec
  zones := s.zones
  plan := s.plan
  graph := g
  connection := s.connection password
  rendering := Rendering.of s.spec s.config

/-- **A sound scheme has a blueprint as soon as it has a graph.** -/
theorem blueprint_eq (hs : s.Sound) (password : Option String) :
    s.blueprint password =
      ((s.assemble s.names password).mapError Stop.fault).map (s.blueprintOf password) := by
  unfold blueprint
  rw [draw_eq hs]
  cases hg : s.assemble s.names password with
  | error cause => rfl
  | ok g =>
    have hconnection := connection_eq (draft_of_assemble hg)
    simp only [Except.mapError, Fallible.ok_bind, hconnection]
    rfl

/-- A blueprint that is drawn is that of a graph. -/
theorem exists_of_blueprint_eq_ok (hs : s.Sound) {b : Blueprint}
    (h : s.blueprint password = .ok b) :
    ∃ g, s.assemble s.names password = .ok g ∧ b = s.blueprintOf password g := by
  rw [blueprint_eq hs] at h
  cases hg : s.assemble s.names password with
  | error cause =>
    rw [hg] at h
    cases h
  | ok g =>
    rw [hg] at h
    cases h
    exact ⟨g, rfl, rfl⟩

/-- **The connection of a blueprint shows the password it was drawn
with.** -/
theorem masterPassword_eq (hs : s.Sound) {b : Blueprint} (h : s.blueprint password = .ok b) :
    b.connection.masterPassword = password := by
  obtain ⟨g, -, rfl⟩ := exists_of_blueprint_eq_ok hs h
  rfl

/-- **A scheme fails only over a name of its cluster.** -/
theorem blueprint_outcome (hh : s.config.hashLength = 10) (hs : s.Sound)
    (password : Option String) :
    (s.NameClash password ∧ ∃ name, s.blueprint password =
        .error (.fault (.field "clusterName" (.nameTaken name)))) ∨
      (¬ s.NameClash password ∧ ∃ b, s.blueprint password = .ok b) := by
  rw [blueprint_eq hs]
  by_cases hclash : s.NameClash password
  · have hnodup : ¬ (s.groundNames password ++ s.memberNames).Nodup := fun h =>
      (nodup_names_iff hh.ge hs.spec password).1 h hclash
    have hsome : s.spec.clusterName.isSome := by
      obtain ⟨cluster, hcluster, -⟩ := hclash
      rw [hcluster, Option.isSome_some]
    obtain ⟨name, -, herror⟩ := assemble_of_not_nodup hh.ge hs.spec hsome hnodup
    exact Or.inl ⟨hclash, name, by rw [herror]; rfl⟩
  · obtain ⟨g, hg⟩ :=
      exists_assemble hh.ge hs.spec ((nodup_names_iff hh.ge hs.spec password).2 hclash)
    exact Or.inr ⟨hclash, s.blueprintOf password g, by rw [hg]; rfl⟩

end Scheme

namespace Blueprint

variable {σ : Type}

/-- A spec that is planned is drawn with the password that was found. -/
theorem ofSpec_eq {config : Config} {spec : Spec} {s : Scheme}
    (h : Scheme.of config spec = .ok s) (source : PasswordSource σ) (state : σ) :
    ofSpec config source spec state =
      (s.blueprint (s.password source state).1, (s.password source state).2) := by
  rw [ofSpec, h]

/-- A spec that is not planned is refused, and no password is asked for. -/
theorem ofSpec_of_error {config : Config} {spec : Spec} {cause : Fault}
    (h : Scheme.of config spec = .error cause) (source : PasswordSource σ) (state : σ) :
    ofSpec config source spec state = (.error (.fault cause), state) := by
  rw [ofSpec, h]

/-- A spec that compiles has a scheme. -/
theorem exists_of_ofSpec_eq_ok {config : Config} {source : PasswordSource σ} {spec : Spec}
    {state : σ} {b : Blueprint} (h : (ofSpec config source spec state).1 = .ok b) :
    ∃ s, Scheme.of config spec = .ok s ∧ s.blueprint (s.password source state).1 = .ok b := by
  cases hof : Scheme.of config spec with
  | error cause =>
    rw [ofSpec_of_error hof] at h
    cases h
  | ok s =>
    rw [ofSpec_eq hof] at h
    exact ⟨s, rfl, h⟩

/-- **A spec that passes and does not name its cluster compiles** in every
region with enough zones, when digests in names have ten digits or more. -/
theorem exists_ofSpec_of_digits {config : Config} {spec : Spec} {letters : List Char}
    (hh : 10 ≤ config.hashLength) (hcheck : spec.check = .ok ())
    (hletters : Region.letters? spec.region = some letters)
    (hle : spec.zoneCount ≤ letters.length) (hnone : spec.clusterName = none)
    (source : PasswordSource σ) (state : σ) :
    ∃ b, (ofSpec config source spec state).1 = .ok b := by
  have hof : Scheme.of config spec = .ok (.planned config spec letters) :=
    Scheme.of_eq_ok_iff.2 ⟨letters, hcheck, hletters, hle, rfl⟩
  have hs := (Scheme.sound_of hof).1
  obtain ⟨g, hg⟩ := Scheme.exists_assemble hh hs.spec (Scheme.nodup_names_of_none hh hs.spec hnone
    ((Scheme.planned config spec letters).password source state).1)
  rw [ofSpec_eq hof, Scheme.blueprint_eq hs, hg]
  exact ⟨_, rfl⟩

/-- The same with the settings of an installation. -/
theorem exists_ofSpec_of_unnamed {config : Config} {spec : Spec} {letters : List Char}
    (hh : config.hashLength = 10) (hcheck : spec.check = .ok ())
    (hletters : Region.letters? spec.region = some letters)
    (hle : spec.zoneCount ≤ letters.length) (hnone : spec.clusterName = none)
    (source : PasswordSource σ) (state : σ) :
    ∃ b, (ofSpec config source spec state).1 = .ok b :=
  exists_ofSpec_of_digits hh.ge hcheck hletters hle hnone source state

/-- A compilation that ends as it should: with a blueprint, or with a fault
of the claim. -/
def Settled (result : Except Stop Blueprint) : Prop :=
  result ≠ .error .splitName ∧
    ∀ cause, result = .error (.fault cause) → cause.isInternal = false

theorem settled_ok (b : Blueprint) : Settled (.ok b) := by
  refine ⟨fun h => ?_, fun _ h => ?_⟩
  · cases h
  · cases h

theorem settled_fault {cause : Fault} (h : cause.isInternal = false) :
    Settled (.error (.fault cause)) := by
  refine ⟨fun heq => ?_, fun _ heq => ?_⟩
  · cases heq
  · cases heq
    exact h

/-- **How the compilation of a spec ends.** The cases are in the order in
which they are decided. -/
theorem ofSpec_outcome (config : Config) (hh : config.hashLength = 10) (source : PasswordSource σ)
    (spec : Spec) (state : σ) :
    let result := (ofSpec config source spec state).1
    (match spec.check, Region.letters? spec.region with
      -- the spec is refused
      | .error cause, _ => result = .error (.fault cause)
      -- the region is unknown
      | .ok _, none => result = .error (.fault (.unsupportedRegion spec.region))
      | .ok _, some letters =>
        if letters.length < spec.zoneCount then
          result = .error (.fault
            (.field "azCount" (.zonesMissing spec.region letters.length spec.zoneCount)))
        else
          let s := Scheme.planned config spec letters
          let password := (s.password source state).1
          -- the name of the cluster or of a member is taken
          (s.NameClash password ∧
            ∃ name, result = .error (.fault (.field "clusterName" (.nameTaken name)))) ∨
          (¬ s.NameClash password ∧ ∃ b, result = .ok b)) ∧
      Settled result := by
  intro result
  have hof := Scheme.of_eq config spec
  -- a spec that is not planned is refused for the reason that planning gives
  have hrefused : ∀ cause, Scheme.of config spec = .error cause → cause.isInternal = false →
      result = .error (.fault cause) ∧ Settled result := by
    intro cause herror hcause
    have hresult : result = .error (.fault cause) :=
      congrArg Prod.fst (ofSpec_of_error herror source state)
    exact ⟨hresult, hresult ▸ settled_fault hcause⟩
  cases hcheck : spec.check with
  | error cause =>
    simp only [hcheck] at hof
    exact hrefused cause hof (Spec.isInternal_of_check hcheck)
  | ok _ =>
    cases hletters : Region.letters? spec.region with
    | none =>
      simp only [hcheck, hletters] at hof
      exact hrefused _ hof rfl
    | some letters =>
      simp only [hcheck, hletters] at hof
      by_cases hlt : letters.length < spec.zoneCount
      · rw [if_pos hlt] at hof
        simp only [if_pos hlt]
        exact hrefused _ hof rfl
      · rw [if_neg hlt] at hof
        have hsound : (Scheme.planned config spec letters).Sound :=
          Scheme.sound_planned hcheck (by omega)
        have houtcome := Scheme.blueprint_outcome hh hsound
          ((Scheme.planned config spec letters).password source state).1
        have hresult : result = (Scheme.planned config spec letters).blueprint
            ((Scheme.planned config spec letters).password source state).1 :=
          congrArg Prod.fst (ofSpec_eq hof source state)
        rw [← hresult] at houtcome
        simp only [if_neg hlt]
        refine ⟨houtcome, ?_⟩
        rcases houtcome with ⟨-, name, hname⟩ | ⟨-, b, hb⟩
        · exact hname ▸ settled_fault rfl
        · exact hb ▸ settled_ok b

/-- The spec of the defaults ends with a blueprint. -/
theorem ofSpec_outcome_ofRegion :
    ∃ b, (ofSpec {} (.constant "correct-horse-battery") (Spec.ofRegion "us-west-2") ()).1 =
      .ok b := by
  have houtcome := ofSpec_outcome {} rfl (.constant "correct-horse-battery")
    (Spec.ofRegion "us-west-2") ()
  have hcheck : (Spec.ofRegion "us-west-2").check = .ok () := Spec.check_ofRegion (by decide)
  have hletters :
      Region.letters? (Spec.ofRegion "us-west-2").region = some ['a', 'b', 'c', 'd'] := by
    decide +kernel
  have hzones : ¬ ['a', 'b', 'c', 'd'].length < (Spec.ofRegion "us-west-2").zoneCount := by
    decide +kernel
  have hnone : (Spec.ofRegion "us-west-2").clusterName = none := rfl
  generalize Spec.ofRegion "us-west-2" = spec at *
  simp only [hcheck, hletters, if_neg hzones] at houtcome
  obtain ⟨⟨⟨_, hnamed, -⟩, -⟩ | ⟨-, hb⟩, -⟩ := houtcome
  · have hnamed : spec.clusterName = some _ := hnamed
    rw [hnone] at hnamed
    cases hnamed
  · exact hb

end Blueprint

end ClusterBlueprint
