import ClusterBlueprint.Claim.Field
import ClusterBlueprint.Claim.Spec
/-!
# Claim — reading a claim

`Spec.ofClaim` reads every known field of a raw claim, fills in defaults
and checks the result. Fields that have a form of their own (blocks, tiers,
windows) are read first, each down to its parts, and the others follow in
the order of the spec; the first fault on that way is the answer. Unknown
fields are ignored.
-/

namespace ClusterBlueprint

namespace Spec

/-- Reads a block as the value of a field. -/
def readBlock (f : Field) (s : String) : Except Fault AddressBlock :=
  (AddressBlock.read s).mapError fun cause => .field f.name (.block cause)

/-- Reads a tier. -/
def readTier (s : String) : Except Fault Tier :=
  match Tier.ofText? s with
  | some tier => .ok tier
  | none => .error (.field Field.tiers.name (.unknownTier s))

/-- Reads the backup window. -/
def readBackupWindow (s : String) : Except Fault BackupWindow :=
  (BackupWindow.read s).mapError fun cause => .field Field.backupWindow.name (.window cause)

/-- Reads the maintenance window. -/
def readMaintenanceWindow (s : String) : Except Fault MaintenanceWindow :=
  (MaintenanceWindow.read s).mapError fun cause =>
    .field Field.maintenanceWindow.name (.window cause)

/-- The largest number of days and of instances that is told apart from the
greater ones, which are all out of range. -/
def largestCount : Nat := 2 ^ 32 - 1

/-- The spec of the fields of a claim, before it is checked. -/
def ofFields (claim : List (String × Json)) : Except Fault Spec := do
  let some region ← Field.region.readText claim
    | throw (.field Field.region.name .missing)
  let vpc ← readBlock .vpc ((← Field.vpc.readText claim).getD "10.10.0.0/16")
  let tiers ← match ← Field.tiers.readTextList claim with
    | some names => names.mapM readTier
    | none => pure Tier.all
  let sources ← match ← Field.sources.readTextList claim with
    | some blocks => blocks.mapM (readBlock .sources)
    | none => pure [vpc]
  let backupWindow ← readBackupWindow ((← Field.backupWindow.readText claim).getD "03:00-04:00")
  let maintenanceWindow ←
    readMaintenanceWindow ((← Field.maintenanceWindow.readText claim).getD "sun:04:00-sun:05:00")
  let environmentSuffix ← Field.environmentSuffix.readText claim
  let claimName ← Field.claimName.readText claim
  let clusterName ← Field.clusterName.readText claim
  let zoneCount ← Field.zoneCount.readCount claim
  let engineVersion ← Field.engineVersion.readText claim
  let minCapacity ← Field.minCapacity.readNumber claim
  let maxCapacity ← Field.maxCapacity.readNumber claim
  let masterUser ← Field.masterUser.readText claim
  let databaseName ← Field.databaseName.readText claim
  let retentionDays ← Field.retentionDays.readCount claim
  let deletionProtection ← Field.deletionProtection.readFlag claim
  let generatePassword ← Field.generatePassword.readFlag claim
  let masterPassword ← Field.masterPassword.readText claim
  let instanceCount ← Field.instanceCount.readCount claim
  let instanceClass ← Field.instanceClass.readText claim
  let publiclyAccessible ← Field.publiclyAccessible.readFlag claim
  let tags ← Field.tags.readTextMap claim
  let objectNamespace ← Field.objectNamespace.readText claim
  let providerConfig ← Field.providerConfig.readText claim
  pure
    { region := region
      environmentSuffix := environmentSuffix.getD "dev"
      claimName := claimName.getD "vectordb"
      clusterName := clusterName
      vpc := vpc
      zoneCount := zoneCount.getD 3
      tiers := tiers
      sources := sources
      engineVersion := engineVersion.getD "16.1"
      minCapacity := minCapacity.getD (Binary64.ofDecimal false 5 (-1))
      maxCapacity := maxCapacity.getD (Binary64.ofInt 16)
      masterUser := masterUser.getD "postgres"
      databaseName := databaseName.getD "vectordb"
      retentionDays := min (retentionDays.getD 7) largestCount
      backupWindow := backupWindow
      maintenanceWindow := maintenanceWindow
      deletionProtection := deletionProtection.getD false
      generatePassword := generatePassword.getD true
      masterPassword := masterPassword
      instanceCount := min (instanceCount.getD 2) largestCount
      instanceClass := instanceClass.getD "db.serverless"
      publiclyAccessible := publiclyAccessible.getD true
      tags := tags.getD Dict.empty
      objectNamespace := objectNamespace.getD "default"
      providerConfig := providerConfig.getD "default" }

/-- The spec of a claim: its fields, read and checked. -/
def ofClaim (claim : Json) : Except Fault Spec :=
  match claim with
  | .object fields => do
    let spec ← ofFields fields
    spec.check
    pure spec
  | _ => .error (.field "spec" (.wrongForm .object))

end Spec

end ClusterBlueprint
