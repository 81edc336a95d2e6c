import ClusterBlueprint.Binary64.Shortest
import ClusterBlueprint.Network.AddressBlock
import ClusterBlueprint.Network.Tier
import ClusterBlueprint.Ordered.TextSet
import ClusterBlueprint.Resource.Kind
import ClusterBlueprint.Schedule.Window
import ClusterBlueprint.Text.Quoted
/-!
# Fault — why there is no blueprint

A claim, a configuration or a graph is refused for a cause, and the cause
is a value: `FieldFault` for a field of a claim, `GraphFault` for a list of
resources, `ConfigFault` for the settings. `Fault` joins them with the
faults that concern no single field. The wording of each is in one
function, `reason` or `message`. `Stop` adds the one way in which a
compilation ends without a fault: a name that cannot be cut.
-/

namespace ClusterBlueprint

/-- The form that a field's value should have. -/
inductive Form where
  | object | text | count | number | flag | textList | textMap
deriving DecidableEq

namespace Form

/-- The form in words. -/
def words : Form → String
  | .object => "an object"
  | .text => "a string"
  | .count => "a non-negative integer"
  | .number => "a number"
  | .flag => "a boolean"
  | .textList => "a list of strings"
  | .textMap => "a map of strings"

end Form

/-- What is wrong with the value of a field. -/
inductive FieldFault where
  | missing
  | empty
  | wrongForm (expected : Form)
  | block (cause : BlockError)
  | window (cause : WindowError)
  | unknownTier (name : String)
  /-- A label longer than its limit, in bytes. -/
  | labelLength (limit : Nat) (value : String)
  /-- The first character that no label has. -/
  | labelCharacter (c : Char) (value : String)
  /-- A label that starts with no letter or ends with a hyphen. -/
  | labelEnds (value : String)
  | capacityNotPositive (value : Binary64)
  | capacityTooLarge (value : Binary64)
  | capacityStep (value : Binary64)
  | capacityOrder (least greatest : Binary64)
  | zoneCount (n : Nat)
  | zonesMissing (region : String) (available requested : Nat)
  | retention (days : Nat)
  | instanceCount (n : Nat)
  | blockLength (length : Nat)
  | engineVersion (value : String)
  | userLength
  | userCharacters (value : String)
  | userReserved (value : String)
  | passwordLength
  | passwordCharacters
  | windowsMeet (maintenance : MaintenanceWindow) (backup : BackupWindow)
  | databaseName (value : String)
  | instanceClass (value : String)
  | repeatedTier (tier : Tier)
  | databaseTierMissing
  | noSources
  | tagKey (key : String)
  | nameTaken (name : String)

namespace FieldFault

/-- A count that has left its range. -/
def outOfRange (low high : Nat) (what : String) (n : Nat) : String :=
  "must be between " ++ toString low ++ " and " ++ toString high ++ what ++ ", got " ++ toString n

/-- The reason in words. -/
def reason : FieldFault → String
  | .missing => "is required"
  | .empty => "cannot be empty"
  | .wrongForm expected => "expected " ++ expected.words
  | .block cause => cause.message
  | .window cause => cause.message
  | .unknownTier name => "unknown tier " ++ name
  | .labelLength limit value => "exceeds " ++ toString limit ++ " characters: " ++ value
  | .labelCharacter c value => "invalid character " ++ Text.quotedChar c ++ " in " ++ value
  | .labelEnds value => "must start with a letter and not end with a hyphen: " ++ value
  | .capacityNotPositive value => "must be greater than 0, got " ++ value.toMessage
  | .capacityTooLarge value => "must be at most 256, got " ++ value.toMessage
  | .capacityStep value => "must be a multiple of 0.5 ACU, got " ++ value.toMessage
  | .capacityOrder least greatest =>
    least.toMessage ++ " exceeds maxCapacity " ++ greatest.toMessage
  | .zoneCount n => outOfRange 1 3 "" n
  | .zonesMissing region available requested =>
    "region " ++ region ++ " only has " ++ toString available ++ " availability zones, "
      ++ toString requested ++ " requested"
  | .retention days => outOfRange 1 35 " days" days
  | .instanceCount n => outOfRange 1 15 "" n
  | .blockLength length => "prefix /" ++ toString length ++ " outside /16../28"
  | .engineVersion value =>
    "expected a PostgreSQL major.minor version of 11 or later, got " ++ value
  | .userLength => "must be 1 to 63 characters"
  | .userCharacters value =>
    "must start with a letter and contain only letters, digits or underscores: " ++ value
  | .userReserved value => value ++ " is reserved"
  | .passwordLength => "must be 8 to 128 characters"
  | .passwordCharacters => "must be printable ASCII without '/', '\"', '@' or spaces"
  | .windowsMeet maintenance backup =>
    maintenance.text ++ " overlaps backupWindow " ++ backup.text
  | .databaseName value => "must be alphanumeric and start with a letter: " ++ value
  | .instanceClass value => "expected a db.* instance class, got " ++ value
  | .repeatedTier tier => "duplicate tier " ++ tier.text
  | .databaseTierMissing => "the database tier is required"
  | .noSources => "at least one source block is required"
  | .tagKey key => "invalid tag key " ++ Text.quoted key
  | .nameTaken name => name ++ " collides with another resource of this composite"

end FieldFault

/-- What keeps a list of resources from being a graph. -/
inductive GraphFault where
  | repeatedId (id : String)
  | repeatedName (name : String)
  | unknownName (id name : String)
  /-- The listed dependencies are not the ones that the references give. -/
  | otherDependencies (id : String) (listed referenced : TextSet)
  | laterDependency (id dependency : String)
  | missingDependency (id dependency : String)
  | cycle
  /-- A reference to a name that no resource has so far. -/
  | earlyReference (id name : String)
  | missingKind (kind : ResourceKind)
  | missingSecret (name : String)
  | missingDetail (id key : String)
  | missingZone (index : Nat)
deriving DecidableEq

namespace GraphFault

/-- A set of ids, each marked as one, between braces. -/
def idSet (ids : TextSet) : String :=
  "\x7b" ++ ", ".intercalate (ids.toList.map fun id => "NodeId(" ++ Text.quoted id ++ ")") ++ "\x7d"

/-- The reason in words. -/
def reason : GraphFault → String
  | .repeatedId id => "duplicate node id " ++ id
  | .repeatedName name => "duplicate resource name " ++ name
  | .unknownName id name => id ++ " references unknown resource " ++ name
  | .otherDependencies id listed referenced =>
    id ++ " depends_on " ++ idSet listed ++ " does not match its references " ++ idSet referenced
  | .laterDependency id dependency => id ++ " appears before its dependency " ++ dependency
  | .missingDependency id dependency => id ++ " depends on missing " ++ dependency
  | .cycle => "dependency cycle detected"
  | .earlyReference id name => id ++ " references " ++ name ++ " before it was added"
  | .missingKind kind => "graph has no " ++ kind.manifestName ++ " node"
  | .missingSecret name => "cluster references missing password secret " ++ name
  | .missingDetail id key => id ++ " publishes no " ++ key
  | .missingZone index => "no availability zone for index " ++ toString index

end GraphFault

/-- What is wrong with the settings. -/
inductive ConfigFault where
  /-- An environment variable that does not hold the number it should. -/
  | unreadable (key value : String)
  | zeroPort
  | interval (seconds : Nat)
  | passwordLength (n : Nat)
  | emptyProject
  | hashLength (n : Nat)
deriving DecidableEq

namespace ConfigFault

/-- The reason in words. -/
def reason : ConfigFault → String
  | .unreadable key value => key ++ " has an invalid value: " ++ value
  | .zeroPort => "database port must be non-zero"
  | .interval seconds =>
    "monitoring interval " ++ toString seconds ++ " is not one of 0, 1, 5, 10, 15, 30, 60"
  | .passwordLength n => "password length " ++ toString n ++ " must be between 16 and 128"
  | .emptyProject => "project tag cannot be empty"
  | .hashLength n => "name hash length " ++ toString n ++ " must be between 4 and 64"

end ConfigFault

/-- Why there is no blueprint. -/
inductive Fault where
  | field (name : String) (cause : FieldFault)
  | unsupportedRegion (region : String)
  /-- A block with fewer subnets than the layout needs. -/
  | blockExhausted (block : AddressBlock) (required available : Nat)
  | graph (cause : GraphFault)
  /-- A name by version and content for a kind that is not named so. -/
  | namingPolicy (kind : ResourceKind)
  | config (cause : ConfigFault)

namespace Fault

/-- The largest count that a message shows. -/
def shownCount (n : Nat) : String := toString (min n (2 ^ 32 - 1))

/-- The text of the fault. -/
def message : Fault → String
  | .field name cause => "Invalid field `" ++ name ++ "`: " ++ cause.reason
  | .unsupportedRegion region => "Unsupported region: " ++ region
  | .blockExhausted block required available =>
    "CIDR block " ++ block.text ++ " cannot hold " ++ shownCount required
      ++ " /24 subnets (room for " ++ shownCount available ++ ")"
  | .graph cause => "Incomplete resource graph: " ++ cause.reason
  | .namingPolicy kind => kind.manifestName ++ " does not use version+hash naming"
  | .config cause => "Configuration error: " ++ cause.reason

/-- The field at fault, if the fault is one of a field. -/
def field? : Fault → Option String
  | .field name _ => some name
  | _ => none

/-- Faults that no claim should be able to cause. -/
def isInternal : Fault → Bool
  | .graph _ | .namingPolicy _ => true
  | _ => false

end Fault

/-- Why a compilation ends without a blueprint. -/
inductive Stop where
  | fault (cause : Fault)
  /-- A name would have to be cut inside a character. -/
  | splitName

namespace Stop

/-- What a function of names gives, when no name in it is cut inside a
character. -/
def whole {α : Type} : Option α → Except Stop α
  | some a => .ok a
  | none => .error .splitName

@[simp] theorem whole_some {α : Type} (a : α) : whole (some a) = .ok a := rfl

end Stop

end ClusterBlueprint
