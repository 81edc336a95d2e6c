import ClusterBlueprint.Proofs.Claim.Fields
/-!
# Claim — a field that is blamed is at fault

A claim that is refused names a field, and changing other fields does not
help: every claim that says the same about the blamed field is refused as
well (`ofClaim_blames`). Two rules compare two fields, and blame one of
them: the least capacity when it is above the greatest, and the maintenance
window when it meets the backup window. For these the claims have to say the
same about both (`Field.scope`). A network block that is too small for its
zones and tiers is the only thing that is nobody's fault.
-/

namespace ClusterBlueprint

namespace Field

/-- The fields that a fault of a field is about. -/
def scope : Field → List Field
  | .minCapacity => [.minCapacity, .maxCapacity]
  | .maintenanceWindow => [.maintenanceWindow, .backupWindow]
  | f => [f]

theorem self_mem_scope (f : Field) : f ∈ f.scope := by cases f <;> decide

/-- No field has the name that stands for the whole claim. -/
theorem name_ne_spec (f : Field) : f.name ≠ "spec" := by cases f <;> decide

end Field

namespace Spec

variable {spec : Spec} {cause : Fault} {v v' : (f : Field) → f.Value} {f : Field}

/-- **The rule of a field looks at its scope only.** -/
theorem ruleOf_congr (h : ∀ g ∈ f.scope, v' g = v g) :
    (ofValues v').ruleOf f = (ofValues v).ruleOf f := by
  have hself := h f f.self_mem_scope
  cases f with
  | minCapacity =>
    have hmax : v' .maxCapacity = v .maxCapacity := h .maxCapacity (by decide)
    simp only [ruleOf, ofValues, hself, hmax]
  | maintenanceWindow =>
    have hbackup : v' .backupWindow = v .backupWindow := h .backupWindow (by decide)
    simp only [ruleOf, ofValues, hself, hbackup]
  -- the network block stands in for sources that are not given, as a list that is not empty
  | sources =>
    have hgiven : ∀ (given : Option (List AddressBlock)) (b b' : AddressBlock),
        Rules.require (given.getD [b'] ≠ []) "allowedCidrs" .noSources =
          Rules.require (given.getD [b] ≠ []) "allowedCidrs" .noSources := by
      intro given b b'
      cases given <;> rfl
    simp only [ruleOf, ofValues, hself]
    exact hgiven _ _ _
  | region | vpc =>
    simp only [ruleOf, ofValues, hself]
    rfl
  | _ => simp only [ruleOf, ofValues, hself]

/-- A field of a claim is at fault when every claim that says the same about
its scope is refused. -/
def AtFault (f : Field) (fields : List (String × Json)) : Prop :=
  ∀ fields', (∀ g ∈ f.scope, g.Agree fields fields') →
    ∃ cause, ofClaim (.object fields') = .error cause

variable {fields : List (String × Json)}

/-- **A field without a value is at fault.** -/
theorem atFault_of_value (h : f.value fields = .error cause) : AtFault f fields := by
  intro fields' hagree
  cases hread : ofClaim (.object fields') with
  | error cause' => exact ⟨cause', rfl⟩
  | ok spec =>
    obtain ⟨hfields, -⟩ := ofClaim_object_eq_ok_iff.1 hread
    obtain ⟨v, hv, -⟩ := exists_values hfields
    have hvalue := hv f
    rw [Field.value_congr (hagree f f.self_mem_scope), h] at hvalue
    cases hvalue

/-- **A field whose rule is broken is at fault.** -/
theorem atFault_of_ruleOf (hfields : ofFields fields = .ok spec)
    (h : spec.ruleOf f = .error cause) : AtFault f fields := by
  intro fields' hagree
  cases hread : ofClaim (.object fields') with
  | error cause' => exact ⟨cause', rfl⟩
  | ok spec' =>
    obtain ⟨hfields', hcheck⟩ := ofClaim_object_eq_ok_iff.1 hread
    obtain ⟨v, hv, rfl⟩ := exists_values hfields
    obtain ⟨v', hv', rfl⟩ := exists_values hfields'
    have hsame : ∀ g ∈ f.scope, v' g = v g := fun g hg => by
      have hvalue := hv' g
      rw [Field.value_congr (hagree g hg), hv g] at hvalue
      exact (Except.ok.inj hvalue).symm
    have hrule := ruleOf_of_check hcheck f
    rw [ruleOf_congr hsame, h] at hrule
    cases hrule

/-- **A claim that is refused blames a field that is at fault**, or its
network block is too small. Only a claim that is no object is blamed as a
whole. -/
theorem ofClaim_blames {claim : Json} (h : ofClaim claim = .error cause) :
    (∃ block required available, cause = .blockExhausted block required available) ∨
      ∃ name why, cause = .field name why ∧
        (name = "spec" → ∀ fields, claim ≠ .object fields) ∧
        (name ≠ "spec" → ∃ f : Field, name = f.name ∧
          ∃ fields, claim = .object fields ∧ AtFault f fields) := by
  have hfault : ∀ {f : Field} {fields}, (∃ why, cause = .field f.name why) → AtFault f fields →
      ∃ name why, cause = .field name why ∧
        (name = "spec" → ∀ fields', Json.object fields ≠ .object fields') ∧
        (name ≠ "spec" → ∃ f : Field, name = f.name ∧
          ∃ fields', Json.object fields = .object fields' ∧ AtFault f fields') := by
    rintro f fields ⟨why, hcause⟩ hatFault
    exact ⟨f.name, why, hcause, fun hname => absurd hname f.name_ne_spec,
      fun _ => ⟨f, rfl, fields, rfl, hatFault⟩⟩
  cases claim with
  | object fields =>
    rcases Fallible.bind_eq_error.1 h with hread | ⟨spec, hread, h⟩
    · obtain ⟨f, hf⟩ := exists_value_eq_error hread
      exact Or.inr (hfault (Field.blames_value f fields cause hf) (atFault_of_value hf))
    rcases Fallible.bind_eq_error.1 h with hcheck | ⟨_, -, h⟩
    · rcases exists_ruleOf_of_check hcheck with hexhausted | ⟨f, hf⟩
      · exact Or.inl hexhausted
      · exact Or.inr (hfault (blames_ruleOf spec f cause hf) (atFault_of_ruleOf hread hf))
    · cases h
  | _ =>
    refine Or.inr ⟨"spec", _, (Except.error.inj h).symm, fun _ _ => ?_, fun hne => absurd rfl hne⟩
    nofun

/-- Windows that meet are the fault of the maintenance window: whatever a
claim with these two says beside them, it is refused. -/
theorem ofClaim_blames_windows :
    let fields : List (String × Json) :=
      [("backupWindow", .text "03:00-04:00"), ("maintenanceWindow", .text "sun:03:30-sun:04:30"),
        ("region", .text "us-west-2")]
    (∃ why, ofClaim (.object fields) = .error (.field "maintenanceWindow" why)) ∧
      AtFault .maintenanceWindow fields := by
  intro fields
  have hname : (ofClaim (.object fields)).mapError Fault.field? =
      .error (some "maintenanceWindow") := by decide +kernel
  cases hread : ofClaim (.object fields) with
  | ok spec =>
    rw [hread] at hname
    cases hname
  | error cause =>
    rw [hread] at hname
    rcases ofClaim_blames hread with ⟨_, _, _, rfl⟩ | ⟨name, why, rfl, -, hfault⟩
    · cases hname
    obtain rfl : name = "maintenanceWindow" := Option.some.inj (Except.error.inj hname)
    obtain ⟨f, hf, fields', hobject, hatFault⟩ := hfault (by decide)
    obtain rfl : f = .maintenanceWindow := by
      cases f <;> first | rfl | exact absurd hf (by decide)
    exact ⟨⟨why, rfl⟩, Json.object.inj hobject ▸ hatFault⟩

end Spec

end ClusterBlueprint
