import ClusterBlueprint.Claim.Reading
import ClusterBlueprint.Proofs.Claim.Checked
/-!
# Claim — the defaults

A claim has to name its region. Every other field has a default, and the
defaults pass every rule (`check_ofRegion`), so a claim that names a region
and says nothing else is read to the spec of the defaults
(`ofClaim_region`).
-/

namespace ClusterBlueprint

namespace Spec

/-- The spec of the defaults in a region. -/
def ofRegion (region : String) : Spec where
  region := region
  environmentSuffix := "dev"
  claimName := "vectordb"
  clusterName := none
  vpc := ⟨0x0A0A0000, 16, by decide, by decide, by decide⟩
  zoneCount := 3
  tiers := Tier.all
  sources := [⟨0x0A0A0000, 16, by decide, by decide, by decide⟩]
  engineVersion := "16.1"
  minCapacity := Binary64.ofDecimal false 5 (-1)
  maxCapacity := Binary64.ofInt 16
  masterUser := "postgres"
  databaseName := "vectordb"
  retentionDays := 7
  backupWindow := ⟨⟨3, 0⟩, ⟨4, 0⟩, by decide⟩
  maintenanceWindow := ⟨⟨.sun, ⟨4, 0⟩⟩, ⟨.sun, ⟨5, 0⟩⟩, by decide⟩
  deletionProtection := false
  generatePassword := true
  masterPassword := none
  instanceCount := 2
  instanceClass := "db.serverless"
  publiclyAccessible := true
  tags := Dict.empty
  objectNamespace := "default"
  providerConfig := "default"

/-- **Every default passes its rule.** -/
theorem check_ofRegion {region : String} (h : Text.trim region ≠ "") :
    (ofRegion region).check = .ok () := by
  -- only the first rule looks at the region
  have hrules : (ofRegion region).rules =
      Rules.require (Text.trim region ≠ "") "region" .empty :: (ofRegion "").rules.tail := rfl
  have hrest : ∀ rule ∈ (ofRegion "").rules.tail, rule.toOption = some () := by decide +kernel
  rw [check_eq_ok_iff, hrules, List.forall_mem_cons]
  exact ⟨Rules.require_eq_ok_iff.2 (decide_eq_true h),
    fun rule hrule => Fallible.toOption_eq_some_iff.1 (hrest rule hrule)⟩

/-! ## A claim that names its region -/

variable {region : String} {f : Field}

/-- No other field is found in it. -/
theorem read_region {α : Type} (hf : f ≠ .region) (form : Form) (value? : Json → Option α)
    (value : Json) : f.read form value? [("region", value)] = .ok none := by
  have hlookup : f.lookup [("region", value)] = none := by
    cases f <;> first | exact absurd rfl hf | rfl
  rw [Field.read, hlookup]

/-- **A claim that names its region alone has the defaults.** -/
theorem ofClaim_region (htrim : Text.trim region = region) (h : region ≠ "") :
    ofClaim (.object [("region", .text region)]) = .ok (ofRegion region) := by
  have hregion : Field.region.readText [("region", .text region)] = .ok (some region) :=
    congrArg (fun region => Except.ok (some region)) htrim
  have hvpc : readBlock .vpc "10.10.0.0/16" = .ok (ofRegion "").vpc :=
    Fallible.toOption_eq_some_iff.1 (by decide +kernel)
  have hbackup : readBackupWindow "03:00-04:00" = .ok (ofRegion "").backupWindow :=
    Fallible.toOption_eq_some_iff.1 (by decide +kernel)
  have hmaintenance : readMaintenanceWindow "sun:04:00-sun:05:00" =
      .ok (ofRegion "").maintenanceWindow :=
    Fallible.toOption_eq_some_iff.1 (by decide +kernel)
  have hfields : ofFields [("region", .text region)] = .ok (ofRegion region) := by
    unfold ofFields
    simp only [hregion, Fallible.ok_bind]
    simp only [Field.readText, Field.readCount, Field.readNumber, Field.readFlag,
      Field.readTextList, Field.readTextMap, read_region, ne_eq, reduceCtorEq, not_false_eq_true,
      Fallible.ok_bind, Option.getD_none, hvpc, hbackup, hmaintenance]
    rfl
  have hcheck : (ofRegion region).check = .ok () := check_ofRegion (htrim.symm ▸ h)
  rw [ofClaim, hfields, Fallible.ok_bind, hcheck]
  rfl

end Spec

end ClusterBlueprint
