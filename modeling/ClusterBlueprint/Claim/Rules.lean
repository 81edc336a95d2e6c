import ClusterBlueprint.Network.Plan
import ClusterBlueprint.Ordered.Dict
/-!
# Claim — the rules that a single value has to meet

Each function here judges one value, or one pair of values, of a claim and
answers with the fault of the field that holds it. Lengths are counted in
bytes, as the provider counts them.
-/

namespace ClusterBlueprint

namespace Rules

/-- Refuses a value for a cause, unless a condition holds. -/
def require (holds : Bool) (field : String) (cause : FieldFault) : Except Fault Unit :=
  if holds then .ok () else .error (.field field cause)

theorem require_eq_ok_iff {holds : Bool} {field : String} {cause : FieldFault} :
    require holds field cause = .ok () ↔ holds = true := by
  cases holds <;> simp [require]

/-- A letter of a label. -/
def isLower (c : Char) : Bool := 'a' ≤ c && c ≤ 'z'

/-- The characters of a label: lower-case letters, digits and hyphens. -/
def isLabelChar (c : Char) : Bool := isLower c || c.isDigit || c = '-'

/-- A label starts with a letter and does not end with a hyphen. -/
def hasLabelEnds (cs : List Char) : Bool :=
  (cs.head?.any isLower) && cs.getLast? ≠ some '-'

/-- A label of at most `limit` bytes, as names are built from it. -/
def checkLabel (field value : String) (limit : Nat) : Except Fault Unit := do
  require (value ≠ "") field .empty
  require (value.utf8ByteSize ≤ limit) field (.labelLength limit value)
  match value.toList.find? fun c => !isLabelChar c with
  | some c => throw (.field field (.labelCharacter c value))
  | none => require (hasLabelEnds value.toList) field (.labelEnds value)

/-- The largest capacity. -/
def largestCapacity : Binary64 := Binary64.ofInt 256

/-- One end of the scaling range: a positive multiple of one half, at most
256. -/
def checkCapacity (field : String) (value : Binary64) : Except Fault Unit := do
  require (value.isFinite && 0 < value.units) field (.capacityNotPositive value)
  require (!largestCapacity.lt value) field (.capacityTooLarge value)
  require value.isMultipleOfHalf field (.capacityStep value)

/-- The scaling range: both of its ends, and their order. -/
def checkCapacities (least greatest : Binary64) : Except Fault Unit := do
  checkCapacity "minCapacity" least
  checkCapacity "maxCapacity" greatest
  require (!greatest.lt least) "minCapacity" (.capacityOrder least greatest)

/-- One to three zones. -/
def checkZoneCount (n : Nat) : Except Fault Unit :=
  require (1 ≤ n && n ≤ 3) "azCount" (.zoneCount n)

/-- One to thirty-five days of backups. -/
def checkRetention (days : Nat) : Except Fault Unit :=
  require (1 ≤ days && days ≤ 35) "backupRetentionDays" (.retention days)

/-- One to fifteen members of the cluster. -/
def checkInstanceCount (n : Nat) : Except Fault Unit :=
  require (1 ≤ n && n ≤ 15) "instanceCount" (.instanceCount n)

/-- The network block: a length from 16 to 28, and room for the layout. -/
def checkVpc (vpc : AddressBlock) (zones : Nat) (tiers : List Tier) : Except Fault Unit := do
  require (16 ≤ vpc.length && vpc.length ≤ 28) "vpcCidr" (.blockLength vpc.length)
  Plan.checkRoom vpc zones tiers

/-- The number before the first dot of a version, if only digits follow the
dot. -/
def readMajor (version : String) : Option Nat :=
  match Text.splitFirst '.' version.toList with
  | some (major, minor) =>
    if minor ≠ [] ∧ minor.all Char.isDigit then Text.readUnsigned (2 ^ 32) major else none
  | none => none

/-- The major number of a version that the engine has: 11 or later. -/
def checkEngineVersion (version : String) : Except Fault Nat :=
  match (readMajor version).filter (11 ≤ ·) with
  | some major => .ok major
  | none => .error (.field "engineVersion" (.engineVersion version))

/-- Letters, digits and underscores, with a letter first. -/
def isIdentifier (s : String) : Bool :=
  s.toList.head?.any Char.isAlpha && s.toList.all fun c => c.isAlphanum || c = '_'

/-- User names that the provider keeps for itself. -/
def reservedUsers : List String := ["rdsadmin", "rdsrepladmin"]

/-- The name of the master user. -/
def checkUser (name : String) : Except Fault Unit := do
  require (1 ≤ name.utf8ByteSize && name.utf8ByteSize ≤ 63) "masterUsername" .userLength
  require (isIdentifier name) "masterUsername" (.userCharacters name)
  require (String.ofList (name.toList.map Char.toLower) ∉ reservedUsers) "masterUsername"
    (.userReserved name)

/-- The characters of a password: visible ASCII, but not `/`, `"` or `@`. -/
def isPasswordChar (c : Char) : Bool :=
  '!' ≤ c && c ≤ '~' && c ≠ '/' && c ≠ '"' && c ≠ '@'

/-- A master password: 8 to 128 bytes of permitted characters. -/
def checkPassword (password : String) : Except Fault Unit := do
  require (8 ≤ password.utf8ByteSize && password.utf8ByteSize ≤ 128) "masterPassword"
    .passwordLength
  require (password.toList.all isPasswordChar) "masterPassword" .passwordCharacters

/-- The two windows of a cluster must not meet. -/
def checkWindows (backup : BackupWindow) (maintenance : MaintenanceWindow) : Except Fault Unit :=
  require (!maintenance.overlaps backup) "maintenanceWindow" (.windowsMeet maintenance backup)

/-- The name of the first database. -/
def checkDatabaseName (name : String) : Except Fault Unit :=
  require (isIdentifier name) "databaseName" (.databaseName name)

/-- The class of the instances, which all have one beginning. -/
def checkInstanceClass (name : String) : Except Fault Unit :=
  require ("db.".toList.isPrefixOf name.toList) "instanceClass" (.instanceClass name)

/-- The first tier that repeats an earlier one. -/
def firstRepeat : (earlier : List Tier) → List Tier → Option Tier
  | _, [] => none
  | earlier, t :: ts => if t ∈ earlier then some t else firstRepeat (t :: earlier) ts

/-- The tiers of a claim: each at most once, and the database tier. -/
def checkTiers (tiers : List Tier) : Except Fault Unit := do
  match firstRepeat [] tiers with
  | some t => throw (.field "subnetTiers" (.repeatedTier t))
  | none => require (.database ∈ tiers) "subnetTiers" .databaseTierMissing

/-- A tag key that the provider accepts. -/
def isTagKey (key : String) : Bool :=
  key ≠ "" && key.utf8ByteSize ≤ 128 && !"aws:".toList.isPrefixOf key.toList

/-- The keys of the caller's tags, in ascending order. -/
def checkTagKeys (tags : Dict String) : Except Fault Unit :=
  match tags.keys.find? fun key => !isTagKey key with
  | some key => .error (.field "tags" (.tagKey key))
  | none => .ok ()

end Rules

end ClusterBlueprint
