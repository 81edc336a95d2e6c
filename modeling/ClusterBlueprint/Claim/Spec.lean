import ClusterBlueprint.Claim.Rules
/-!
# Claim — what a claim asks for

A `Spec` is a claim with every field present. `Spec.check` is the whole of
what a blueprint requires of it; a spec that was read from a claim has
passed it, and a compilation checks it again, so that a spec that was
changed by hand is not trusted either. The order of the checks decides
which of several faults is reported.
-/

namespace ClusterBlueprint

/-- A claim with every field present. -/
structure Spec where
  region : String
  /-- Names the environment at the end of every resource name. -/
  environmentSuffix : String
  /-- Stands at the start of every resource name. -/
  claimName : String
  /-- The cluster's name, if it is not to be made from the other two. -/
  clusterName : Option String
  vpc : AddressBlock
  zoneCount : Nat
  tiers : List Tier
  /-- The addresses that may connect to the database. -/
  sources : List AddressBlock
  engineVersion : String
  minCapacity : Binary64
  maxCapacity : Binary64
  masterUser : String
  databaseName : String
  retentionDays : Nat
  backupWindow : BackupWindow
  maintenanceWindow : MaintenanceWindow
  deletionProtection : Bool
  generatePassword : Bool
  /-- A password from an earlier compilation. -/
  masterPassword : Option String
  instanceCount : Nat
  instanceClass : String
  publiclyAccessible : Bool
  /-- Tags of the caller. -/
  tags : Dict String
  objectNamespace : String
  providerConfig : String
deriving DecidableEq

namespace Spec

open Rules in
/-- Everything that a blueprint requires of a spec. -/
def check (s : Spec) : Except Fault Unit := do
  require (Text.trim s.region ≠ "") "region" .empty
  checkLabel "environmentSuffix" s.environmentSuffix 20
  checkLabel "claimName" s.claimName 30
  match s.clusterName with
  | some name => checkLabel "clusterName" name 63
  | none => pure ()
  checkZoneCount s.zoneCount
  checkCapacities s.minCapacity s.maxCapacity
  checkRetention s.retentionDays
  let _ ← checkEngineVersion s.engineVersion
  checkUser s.masterUser
  checkInstanceCount s.instanceCount
  checkWindows s.backupWindow s.maintenanceWindow
  checkDatabaseName s.databaseName
  checkInstanceClass s.instanceClass
  match s.masterPassword with
  | some password => checkPassword password
  | none => pure ()
  checkTiers s.tiers
  require (s.sources ≠ []) "allowedCidrs" .noSources
  checkTagKeys s.tags
  checkVpc s.vpc s.zoneCount s.tiers

/-- The major number of the engine version, zero if there is none. -/
def majorVersion (s : Spec) : Nat :=
  match Rules.checkEngineVersion s.engineVersion with
  | .ok major => major
  | .error _ => 0

/-- The family of the parameter groups. -/
def parameterFamily (s : Spec) : String := "aurora-postgresql" ++ toString s.majorVersion

/-- Whether the tier is asked for. -/
def hasTier (s : Spec) (tier : Tier) : Bool := tier ∈ s.tiers

end Spec

end ClusterBlueprint
