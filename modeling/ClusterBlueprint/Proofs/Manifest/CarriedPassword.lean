import ClusterBlueprint.Proofs.Manifest.Agreement
/-!
# Manifest — a password from a claim

The password that a claim carries is in four places of a blueprint: in the
connection, in what the secret publishes, and encoded in the manifests of
both. All four hold one text, and it is the one that reading leaves of the
claim's: without the blanks at its ends (`ofClaim_carriesPassword`). What is
left has to pass the rule of passwords, which permits no blank. So a
character that is not permitted is refused inside of a password, and at its
ends as well, unless it is a blank: that is taken off, and clients are handed
another password than the one that was carried
(`blank_falls_off_password`).
-/

namespace ClusterBlueprint

namespace Spec

open Text

variable {spec : Spec} {claim : Json} {p : String}

/-- **A password is read without the blanks at its ends.** -/
theorem masterPassword_of_text (hspec : ofClaim claim = .ok spec)
    (hp : claim.get? "masterPassword" = some (.text p)) : spec.masterPassword = some (trim p) := by
  obtain ⟨fields, v, rfl, hv, rfl, -⟩ := exists_values_of_ofClaim hspec
  have hlookup : Field.masterPassword.lookup fields = some (.text p) := by
    rw [Json.get?_object] at hp
    simp [Field.lookup, Field.spellings, Field.name, Field.aliases, hp, Json.isNull]
  have hread : Field.masterPassword.readText fields = .ok (some (trim p)) :=
    Field.read_of_lookup hlookup rfl
  exact (Except.ok.inj (hread.symm.trans (hv .masterPassword))).symm

/-- The characters of a carried password are permitted. -/
theorem isPasswordChar_of_check (h : spec.check = .ok ()) (hp : spec.masterPassword = some p) :
    ∀ c ∈ p.toList, Rules.isPasswordChar c = true := by
  obtain ⟨_, -, hchars⟩ := Fallible.bind_eq_ok.1 (checkPassword_of_check h hp)
  exact List.all_eq_true.1 (Rules.require_eq_ok_iff.1 hchars)

end Spec

namespace Blueprint

/-- The four places of a password. -/
structure CarriesPassword (b : Blueprint) (password : String) : Prop where
  connection : b.connection.masterPassword = some password
  /-- The only secret of the graph publishes it. -/
  detail : ∃ n, b.graph.ofKind .secret = [n] ∧ n.details.get? "password" = some password
  /-- The only secret among the resources has it, encoded. -/
  kept : ∃ resources manifest, b.toJson.get? "resources" = some (.array resources) ∧
    resources.filter (Json.isOf "Secret") = [manifest] ∧
    manifest.decoded? "password" = some password
  /-- And so has the secret of the connection. -/
  shown : ∃ manifest, b.toJson.get? "secret" = some manifest ∧
    manifest.decoded? "masterPassword" = some password

end Blueprint

namespace Scheme

variable {s : Scheme} {g : Graph} {p : String}

/-- **A password that a blueprint is drawn with is in all four places.** -/
theorem carriesPassword (hg : g.nodes.map Node.draft = s.drafts (some p)) :
    (s.blueprintOf (some p) g).CarriesPassword p := by
  obtain ⟨n, hn, hdraft⟩ := exists_node hg (p := .secret) (Or.inl (Extent.mem_parts.2 rfl))
  have hdetails : n.details = (secret s.names p).details := congrArg Draft.details hdraft
  exact
    { connection := rfl
      detail := ⟨n, ofKind_eq_singleton hg (p := .secret) rfl hn hdraft, by rw [hdetails]; rfl⟩
      kept := ⟨_, _, rfl, filter_isOf_eq_singleton hg s.rendering (p := .secret) rfl hn hdraft,
        decoded?_secret hdraft⟩
      shown := ⟨_, rfl, (Rendering.decoded?_connection _ _ _).trans rfl⟩ }

end Scheme

namespace Blueprint

variable {σ : Type} {config : Config} {source : PasswordSource σ} {claim : Json} {state : σ}
  {spec : Spec} {b : Blueprint} {p : String}

open Text

/-- A blueprint carries the password of its spec. -/
theorem carriesPassword_of_spec (hspec : Spec.ofClaim claim = .ok spec)
    (hp : spec.masterPassword = some p) (h : (ofClaim config source claim state).1 = .ok b) :
    b.CarriesPassword p := by
  obtain ⟨read, s, hread, hof, hdrawn⟩ := exists_scheme h
  obtain rfl : read = spec := Except.ok.inj (hread.symm.trans hspec)
  obtain ⟨hs, rfl, -⟩ := Scheme.sound_of hof
  rw [Scheme.password_of_carried hp] at hdrawn
  obtain ⟨g, hg, rfl⟩ := Scheme.exists_of_blueprint_eq_ok hs hdrawn
  exact Scheme.carriesPassword (Scheme.draft_of_assemble hg)

/-- **A password that a claim carries is in all four places as reading left
it**, which is as it was carried exactly when all of its characters are
permitted. Where some are not, they are blanks at its ends. -/
theorem ofClaim_carriesPassword (h : (ofClaim config source claim state).1 = .ok b)
    (hp : claim.get? "masterPassword" = some (.text p)) :
    b.CarriesPassword (trim p) ∧
      (∃ front back, p.toList = front ++ (trim p).toList ++ back ∧
        (∀ c ∈ front, isBlank c = true) ∧ (∀ c ∈ back, isBlank c = true) ∧
        ∀ c ∈ (trim p).toList, Rules.isPasswordChar c = true) ∧
      (b.CarriesPassword p ↔ ∀ c ∈ p.toList, Rules.isPasswordChar c = true) := by
  obtain ⟨spec, -, hspec, -⟩ := exists_scheme h
  have hmaster := Spec.masterPassword_of_text hspec hp
  have hcarries := carriesPassword_of_spec hspec hmaster h
  have hchars := Spec.isPasswordChar_of_check (Spec.check_of_ofClaim hspec) hmaster
  obtain ⟨front, back, hsplit, hfront, hback⟩ := exists_blanks p
  refine ⟨hcarries, ⟨front, back, hsplit, hfront, hback, hchars⟩, fun hself => ?_, fun hall => ?_⟩
  · have heq : p = trim p := Option.some.inj (hself.connection.symm.trans hcarries.connection)
    rw [heq]
    exact hchars
  · have heq : trim p = p := trim_eq_self fun c hc =>
      Rules.isGraphic_of_isPasswordChar (hall c hc)
    exact heq ▸ hcarries

/-- A password of permitted characters is carried as it is. -/
theorem ofClaim_carriesPassword_visible :
    let claim := Json.object
      [("region", .text "us-west-2"), ("masterPassword", .text "tr0ub4dor&three")]
    let source := PasswordSource.constant "correct-horse-battery"
    ∃ b : Blueprint, (ofClaim {} source claim ()).1 = .ok b ∧
      claim.get? "masterPassword" = some (.text "tr0ub4dor&three") ∧
      b.CarriesPassword "tr0ub4dor&three" := by
  intro claim source
  have hspec : Spec.ofClaim claim = .ok
      { Spec.ofRegion "us-west-2" with masterPassword := some "tr0ub4dor&three" } :=
    Fallible.toOption_eq_some_iff.1 (by decide +kernel)
  obtain ⟨b, hb⟩ := exists_ofClaim_west hspec rfl rfl source ()
  have hp : claim.get? "masterPassword" = some (.text "tr0ub4dor&three") := rfl
  have hchars : "tr0ub4dor&three".toList.all Rules.isPasswordChar = true := by decide
  exact ⟨b, hb, hp, (ofClaim_carriesPassword hb hp).2.2.2 (List.all_eq_true.1 hchars)⟩

/-- **A blank falls off a password**: one that starts with a space compiles,
though no password may have one, and another password is carried. -/
theorem blank_falls_off_password :
    let password := " correct-horse-battery"
    let claim := Json.object
      [("region", .text "us-west-2"), ("masterPassword", .text password)]
    let source := PasswordSource.constant "generated-password"
    ' ' ∈ password.toList ∧ Rules.isPasswordChar ' ' = false ∧
      ∃ b : Blueprint, (ofClaim {} source claim ()).1 = .ok b ∧
        b.CarriesPassword "correct-horse-battery" ∧ ¬ b.CarriesPassword password := by
  intro password claim source
  let spec : Spec :=
    { Spec.ofRegion "us-west-2" with masterPassword := some "correct-horse-battery" }
  have hspec : Spec.ofClaim claim = .ok spec := Fallible.toOption_eq_some_iff.1 (by decide +kernel)
  obtain ⟨b, hb⟩ := exists_ofClaim_west hspec rfl rfl source ()
  have hcarries : b.CarriesPassword "correct-horse-battery" := carriesPassword_of_spec hspec rfl hb
  refine ⟨by decide, by decide, b, hb, hcarries, fun hself => ?_⟩
  exact absurd (Option.some.inj (hself.connection.symm.trans hcarries.connection)) (by decide)

end Blueprint

end ClusterBlueprint
