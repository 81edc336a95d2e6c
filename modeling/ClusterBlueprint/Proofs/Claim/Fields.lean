import ClusterBlueprint.Claim.Reading
import ClusterBlueprint.Proofs.Claim.Checked
/-!
# Claim — fields are read apart

`Spec.ofFields` is one long chain, but no field's part of it looks at
another field. `Field.value` is that part, with its default and its own
form: a claim is read exactly when every field has a value
(`exists_values`), a claim that is not read has a field without one
(`exists_value_eq_error`), and that field is the one that is blamed
(`blames_value`). What a field is read to depends on what stands under its
spellings and on nothing else (`value_congr`).
-/

namespace ClusterBlueprint

namespace Field

variable {f : Field} {claim claim' : List (String × Json)}

/-! ## Values -/

/-- What a field is read to. The sources may be left to the network
block. -/
abbrev Value : Field → Type
  | .vpc => AddressBlock
  | .tiers => List Tier
  | .sources => Option (List AddressBlock)
  | .backupWindow => BackupWindow
  | .maintenanceWindow => MaintenanceWindow
  | .clusterName | .masterPassword => Option String
  | .zoneCount | .retentionDays | .instanceCount => Nat
  | .minCapacity | .maxCapacity => Binary64
  | .deletionProtection | .generatePassword | .publiclyAccessible => Bool
  | .tags => Dict String
  | .region | .environmentSuffix | .claimName | .engineVersion | .masterUser | .databaseName
  | .instanceClass | .objectNamespace | .providerConfig => String

/-- A count or its default, up to the largest that is told apart. -/
def boundedCount (default : Nat) (count : Option Nat) : Nat :=
  min (count.getD default) Spec.largestCount

/-- **What a field of a claim is read to**, on its own. -/
def value : (f : Field) → List (String × Json) → Except Fault f.Value
  | .region, claim => do
    match ← region.readText claim with
    | some name => pure name
    | none => throw (.field region.name .missing)
  | .vpc, claim => do Spec.readBlock .vpc ((← vpc.readText claim).getD "10.10.0.0/16")
  | .tiers, claim => do
    match ← tiers.readTextList claim with
    | some names => names.mapM Spec.readTier
    | none => pure Tier.all
  | .sources, claim => do
    match ← sources.readTextList claim with
    | some blocks => (blocks.mapM (Spec.readBlock .sources)).map some
    | none => pure none
  | .backupWindow, claim => do
    Spec.readBackupWindow ((← backupWindow.readText claim).getD "03:00-04:00")
  | .maintenanceWindow, claim => do
    Spec.readMaintenanceWindow ((← maintenanceWindow.readText claim).getD "sun:04:00-sun:05:00")
  | .environmentSuffix, claim => (environmentSuffix.readText claim).map (·.getD "dev")
  | .claimName, claim => (claimName.readText claim).map (·.getD "vectordb")
  | .clusterName, claim => clusterName.readText claim
  | .zoneCount, claim => (zoneCount.readCount claim).map (·.getD 3)
  | .engineVersion, claim => (engineVersion.readText claim).map (·.getD "16.1")
  | .minCapacity, claim =>
    (minCapacity.readNumber claim).map (·.getD (Binary64.ofDecimal false 5 (-1)))
  | .maxCapacity, claim => (maxCapacity.readNumber claim).map (·.getD (Binary64.ofInt 16))
  | .masterUser, claim => (masterUser.readText claim).map (·.getD "postgres")
  | .databaseName, claim => (databaseName.readText claim).map (·.getD "vectordb")
  | .retentionDays, claim => (retentionDays.readCount claim).map (boundedCount 7)
  | .deletionProtection, claim => (deletionProtection.readFlag claim).map (·.getD false)
  | .generatePassword, claim => (generatePassword.readFlag claim).map (·.getD true)
  | .masterPassword, claim => masterPassword.readText claim
  | .instanceCount, claim => (instanceCount.readCount claim).map (boundedCount 2)
  | .instanceClass, claim => (instanceClass.readText claim).map (·.getD "db.serverless")
  | .publiclyAccessible, claim => (publiclyAccessible.readFlag claim).map (·.getD true)
  | .tags, claim => (tags.readTextMap claim).map (·.getD Dict.empty)
  | .objectNamespace, claim => (objectNamespace.readText claim).map (·.getD "default")
  | .providerConfig, claim => (providerConfig.readText claim).map (·.getD "default")

/-! ## What a value depends on -/

/-- Two claims say the same about a field. -/
def Agree (f : Field) (claim claim' : List (String × Json)) : Prop :=
  ∀ key ∈ f.spellings, Bindings.find? key claim' = Bindings.find? key claim

/-- What claims say the same about is looked up alike. -/
theorem lookup_congr (h : f.Agree claim claim') : f.lookup claim' = f.lookup claim := by
  rw [lookup, lookup, List.filterMap_congr h]

/-- **What is looked up decides the value.** -/
theorem value_of_lookup (h : f.lookup claim' = f.lookup claim) :
    f.value claim' = f.value claim := by
  have hread : ∀ {α : Type} (form : Form) (value? : Json → Option α),
      f.read form value? claim' = f.read form value? claim := by
    intro α form value?
    rw [read, h, read]
  cases f <;>
    simp only [value, readText, readCount, readNumber, readFlag, readTextList, readTextMap, hread]

/-- So a field has one value in claims that say the same about it. -/
theorem value_congr (h : f.Agree claim claim') : f.value claim' = f.value claim :=
  value_of_lookup (lookup_congr h)

/-- A field under which a document stands is read from it. -/
theorem read_of_lookup {α : Type} {form : Form} {value? : Json → Option α} {doc : Json} {a : α}
    (hdoc : f.lookup claim = some doc) (ha : value? doc = some a) :
    f.read form value? claim = .ok (some a) := by
  rw [read, hdoc]
  simp only [ha]

/-- A text that has nothing to trim is read as it stands. -/
theorem readText_of_lookup {s : Option String} (hdoc : f.lookup claim = s.map .text)
    (hs : ∀ t ∈ s, Text.trim t = t) : f.readText claim = .ok s := by
  cases s with
  | none => rw [readText, read, hdoc, Option.map_none]
  | some t => exact read_of_lookup hdoc (congrArg some (hs t rfl))

/-! ## What is wrong with a value -/

open Spec

theorem blames_read {α : Type} (f : Field) (form : Form) (value? : Json → Option α)
    (claim : List (String × Json)) : Blames f.name (f.read form value? claim) := by
  unfold read
  split
  · exact blames_ok _ _
  · split
    · exact blames_ok _ _
    · exact blames_field _ _

theorem blames_mapError {ε α : Type} {field : String} (x : Except ε α) (why : ε → FieldFault) :
    Blames field (x.mapError fun e => .field field (why e)) := by
  cases x with
  | error e => exact blames_field _ _
  | ok a => exact blames_ok _ _

theorem blames_mapM {α β : Type} {field : String} {step : α → Except Fault β}
    (h : ∀ a, Blames field (step a)) (xs : List α) : Blames field (xs.mapM step) := by
  induction xs with
  | nil => exact blames_ok _ _
  | cons x xs ih =>
    rw [List.mapM_cons]
    exact blames_bind (h x) fun _ => blames_bind ih fun _ => blames_ok _ _

theorem blames_readTier (name : String) : Blames tiers.name (readTier name) := by
  unfold readTier
  split
  · exact blames_ok _ _
  · exact blames_field _ _

/-- **A field that has no value is blamed by its own name.** -/
theorem blames_value (f : Field) (claim : List (String × Json)) :
    Blames f.name (f.value claim) := by
  cases f with
  | region =>
    refine blames_bind (blames_read _ _ _ _) fun found => ?_
    cases found with
    | none => exact blames_field _ _
    | some name => exact blames_ok _ _
  | vpc | backupWindow | maintenanceWindow =>
    exact blames_bind (blames_read _ _ _ _) fun _ => blames_mapError _ _
  | tiers =>
    refine blames_bind (blames_read _ _ _ _) fun found => ?_
    cases found with
    | none => exact blames_ok _ _
    | some names => exact blames_mapM blames_readTier names
  | sources =>
    refine blames_bind (blames_read _ _ _ _) fun found => ?_
    cases found with
    | none => exact blames_ok _ _
    | some blocks => exact blames_map _ (blames_mapM (fun _ => blames_mapError _ _) blocks)
  | clusterName | masterPassword => exact blames_read _ _ _ _
  | _ => exact blames_map _ (blames_read _ _ _ _)

end Field

namespace Spec

variable {claim : List (String × Json)} {spec : Spec} {cause : Fault}
  {get : (f : Field) → Except Fault f.Value} {v : (f : Field) → f.Value}

/-! ## The spec of the values -/

/-- The spec of a value for each field. -/
def ofValues (v : (f : Field) → f.Value) : Spec where
  region := v .region
  environmentSuffix := v .environmentSuffix
  claimName := v .claimName
  clusterName := v .clusterName
  vpc := v .vpc
  zoneCount := v .zoneCount
  tiers := v .tiers
  sources := (v .sources).getD [v .vpc]
  engineVersion := v .engineVersion
  minCapacity := v .minCapacity
  maxCapacity := v .maxCapacity
  masterUser := v .masterUser
  databaseName := v .databaseName
  retentionDays := v .retentionDays
  backupWindow := v .backupWindow
  maintenanceWindow := v .maintenanceWindow
  deletionProtection := v .deletionProtection
  generatePassword := v .generatePassword
  masterPassword := v .masterPassword
  instanceCount := v .instanceCount
  instanceClass := v .instanceClass
  publiclyAccessible := v .publiclyAccessible
  tags := v .tags
  objectNamespace := v .objectNamespace
  providerConfig := v .providerConfig

/-- The spec of values that are got one after the other. -/
def collect (get : (f : Field) → Except Fault f.Value) : Except Fault Spec := do
  let region ← get .region
  let vpc ← get .vpc
  let tiers ← get .tiers
  let sources ← get .sources
  let backupWindow ← get .backupWindow
  let maintenanceWindow ← get .maintenanceWindow
  let environmentSuffix ← get .environmentSuffix
  let claimName ← get .claimName
  let clusterName ← get .clusterName
  let zoneCount ← get .zoneCount
  let engineVersion ← get .engineVersion
  let minCapacity ← get .minCapacity
  let maxCapacity ← get .maxCapacity
  let masterUser ← get .masterUser
  let databaseName ← get .databaseName
  let retentionDays ← get .retentionDays
  let deletionProtection ← get .deletionProtection
  let generatePassword ← get .generatePassword
  let masterPassword ← get .masterPassword
  let instanceCount ← get .instanceCount
  let instanceClass ← get .instanceClass
  let publiclyAccessible ← get .publiclyAccessible
  let tags ← get .tags
  let objectNamespace ← get .objectNamespace
  let providerConfig ← get .providerConfig
  pure <| ofValues fun
    | .region => region
    | .vpc => vpc
    | .tiers => tiers
    | .sources => sources
    | .backupWindow => backupWindow
    | .maintenanceWindow => maintenanceWindow
    | .environmentSuffix => environmentSuffix
    | .claimName => claimName
    | .clusterName => clusterName
    | .zoneCount => zoneCount
    | .engineVersion => engineVersion
    | .minCapacity => minCapacity
    | .maxCapacity => maxCapacity
    | .masterUser => masterUser
    | .databaseName => databaseName
    | .retentionDays => retentionDays
    | .deletionProtection => deletionProtection
    | .generatePassword => generatePassword
    | .masterPassword => masterPassword
    | .instanceCount => instanceCount
    | .instanceClass => instanceClass
    | .publiclyAccessible => publiclyAccessible
    | .tags => tags
    | .objectNamespace => objectNamespace
    | .providerConfig => providerConfig

/-- **A claim is read by collecting the values of its fields.** -/
theorem ofFields_eq_collect (claim : List (String × Json)) :
    ofFields claim = collect fun f => f.value claim := by
  unfold ofFields collect
  simp only [Field.value, Fallible.map_eq_bind, bind_assoc, Fallible.ok_bind]
  -- three fields decide how the chain goes on: whether there is a region, and
  -- whether the tiers and the sources are given
  refine Fallible.bind_congr fun region => ?_
  cases region with
  | none => rfl
  | some region =>
    simp only [pure_bind]
    refine Fallible.bind_congr fun vpcText => Fallible.bind_congr fun vpc =>
      Fallible.bind_congr fun names => ?_
    cases names with
    | none =>
      simp only [pure_bind]
      refine Fallible.bind_congr fun blocks => ?_
      cases blocks with
      | none => rfl
      | some blocks =>
        simp only [bind_assoc, Fallible.ok_bind]
        rfl
    | some names =>
      refine Fallible.bind_congr fun tiers => Fallible.bind_congr fun blocks => ?_
      cases blocks with
      | none => rfl
      | some blocks =>
        simp only [bind_assoc, Fallible.ok_bind]
        rfl

/-- Where there is a value for each field, they are collected. -/
theorem collect_of_values (h : ∀ f, get f = .ok (v f)) : collect get = .ok (ofValues v) := by
  obtain rfl : get = fun f => .ok (v f) := funext h
  rfl

/-- What is collected are values of all fields. -/
theorem exists_of_collect_eq_ok (h : collect get = .ok spec) (f : Field) :
    ∃ value, get f = .ok value := by
  simp only [collect, Fallible.bind_eq_ok] at h
  obtain ⟨_, hregion, _, hvpc, _, htiers, _, hsources, _, hbackup, _, hmaintenance, _, hsuffix, _,
    hclaim, _, hcluster, _, hzones, _, hversion, _, hmin, _, hmax, _, huser, _, hdatabase, _,
    hretention, _, hprotection, _, hgenerate, _, hpassword, _, hmembers, _, hclass, _, hpublic, _,
    htags, _, hnamespace, _, hprovider, -⟩ := h
  cases f <;> exact ⟨_, by assumption⟩

/-- Fails, if at all, over a field that has no value. -/
def FailsOver (get : (f : Field) → Except Fault f.Value) (x : Except Fault Spec) : Prop :=
  ∀ cause, x = .error cause → ∃ f, get f = .error cause

theorem failsOver_bind {f : Field} {step : f.Value → Except Fault Spec}
    (h : ∀ value, FailsOver get (step value)) : FailsOver get (get f >>= step) := by
  intro cause herror
  rcases Fallible.bind_eq_error.1 herror with hf | ⟨value, -, hstep⟩
  · exact ⟨f, hf⟩
  · exact h value cause hstep

/-- Collecting fails over a field that has no value. -/
theorem failsOver_collect (get : (f : Field) → Except Fault f.Value) :
    FailsOver get (collect get) := by
  unfold collect
  iterate 25 refine failsOver_bind fun _ => ?_
  exact fun _ h => nomatch h

/-! ## Reading -/

/-- **A claim that is read has a value for each field**, and its spec is the
spec of these. -/
theorem exists_values (h : ofFields claim = .ok spec) :
    ∃ v : (f : Field) → f.Value, (∀ f : Field, f.value claim = .ok (v f)) ∧ spec = ofValues v := by
  rw [ofFields_eq_collect] at h
  choose v hv using exists_of_collect_eq_ok h
  rw [collect_of_values hv] at h
  exact ⟨v, hv, (Except.ok.inj h).symm⟩

/-- A claim whose fields have values is read to the spec of these. -/
theorem ofFields_of_values (h : ∀ f : Field, f.value claim = .ok (v f)) :
    ofFields claim = .ok (ofValues v) := by
  rw [ofFields_eq_collect, collect_of_values h]

/-- **A claim that is not read has a field without a value.** -/
theorem exists_value_eq_error (h : ofFields claim = .error cause) :
    ∃ f : Field, f.value claim = .error cause := by
  rw [ofFields_eq_collect] at h
  exact failsOver_collect _ cause h

/-- A claim that is an object has the spec of its fields, when that passes. -/
theorem ofClaim_object_eq_ok_iff :
    ofClaim (.object claim) = .ok spec ↔ ofFields claim = .ok spec ∧ spec.check = .ok () := by
  constructor
  · intro h
    obtain ⟨found, hfields, h⟩ := Fallible.bind_eq_ok.1 h
    obtain ⟨_, hcheck, hfound⟩ := Fallible.bind_eq_ok.1 h
    obtain rfl : found = spec := Except.ok.inj hfound
    exact ⟨hfields, hcheck⟩
  · rintro ⟨hfields, hcheck⟩
    exact Fallible.bind_eq_ok.2 ⟨spec, hfields, Fallible.bind_eq_ok.2 ⟨(), hcheck, rfl⟩⟩

/-- **A claim that has a spec is an object with a value for each field.** -/
theorem exists_values_of_ofClaim {raw : Json} (h : ofClaim raw = .ok spec) :
    ∃ (claim : List (String × Json)) (v : (f : Field) → f.Value), raw = .object claim ∧
      (∀ f : Field, f.value claim = .ok (v f)) ∧ spec = ofValues v ∧ spec.check = .ok () := by
  cases raw with
  | object claim =>
    obtain ⟨hfields, hcheck⟩ := ofClaim_object_eq_ok_iff.1 h
    obtain ⟨v, hv, hspec⟩ := exists_values hfields
    exact ⟨claim, v, rfl, hv, hspec, hcheck⟩
  | _ => nomatch h

/-- What is read from a claim passes the check. -/
theorem check_of_ofClaim {raw : Json} (h : ofClaim raw = .ok spec) : spec.check = .ok () := by
  obtain ⟨_, _, -, -, -, hcheck⟩ := exists_values_of_ofClaim h
  exact hcheck

end Spec

end ClusterBlueprint
