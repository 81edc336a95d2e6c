import ClusterBlueprint.Fault
import ClusterBlueprint.Json.Record
import ClusterBlueprint.Text.Blank
/-!
# Claim — the fields of a raw claim

A raw claim is a JSON object with known fields, some of which have an older
spelling as well. A field is looked up under its spellings in order, and a
`null` counts as absent. A value of the wrong form is a fault of the field,
named by its canonical spelling. Texts lose the blanks at their ends, except
in tags.
-/

namespace ClusterBlueprint

/-- A field of a raw claim. -/
inductive Field where
  | region | vpc | tiers | sources | backupWindow | maintenanceWindow | environmentSuffix
  | claimName | clusterName | zoneCount | engineVersion | minCapacity | maxCapacity
  | masterUser | databaseName | retentionDays | deletionProtection | generatePassword
  | masterPassword | instanceCount | instanceClass | publiclyAccessible | tags
  | objectNamespace | providerConfig
deriving DecidableEq

namespace Field

/-- The canonical spelling. -/
def name : Field → String
  | .region => "region"
  | .vpc => "vpcCidr"
  | .tiers => "subnetTiers"
  | .sources => "allowedCidrs"
  | .backupWindow => "backupWindow"
  | .maintenanceWindow => "maintenanceWindow"
  | .environmentSuffix => "environmentSuffix"
  | .claimName => "claimName"
  | .clusterName => "clusterName"
  | .zoneCount => "azCount"
  | .engineVersion => "engineVersion"
  | .minCapacity => "minCapacity"
  | .maxCapacity => "maxCapacity"
  | .masterUser => "masterUsername"
  | .databaseName => "databaseName"
  | .retentionDays => "backupRetentionDays"
  | .deletionProtection => "deletionProtection"
  | .generatePassword => "generatePassword"
  | .masterPassword => "masterPassword"
  | .instanceCount => "instanceCount"
  | .instanceClass => "instanceClass"
  | .publiclyAccessible => "publiclyAccessible"
  | .tags => "tags"
  | .objectNamespace => "namespace"
  | .providerConfig => "providerConfigRef"

/-- The older spellings. -/
def aliases : Field → List String
  | .region => ["location"]
  | .environmentSuffix => ["envSuffix"]
  | .retentionDays => ["backupRetentionPeriod"]
  | .tags => ["extraTags"]
  | _ => []

/-- Every spelling, the canonical one first. -/
def spellings (f : Field) : List String := f.name :: f.aliases

/-- The value of a field: the first one under its spellings that is not
`null`. -/
def lookup (f : Field) (claim : List (String × Json)) : Option Json :=
  (f.spellings.filterMap fun key => Bindings.find? key claim).find? fun value => !value.isNull

/-- Reads a field in one form; an absent field is no fault. -/
def read {α : Type} (f : Field) (form : Form) (value? : Json → Option α)
    (claim : List (String × Json)) : Except Fault (Option α) :=
  match f.lookup claim with
  | none => .ok none
  | some doc =>
    match value? doc with
    | some value => .ok (some value)
    | none => .error (.field f.name (.wrongForm form))

/-- A text without the blanks at its ends. -/
def trimmed? (doc : Json) : Option String := doc.text?.map Text.trim

/-- The texts of a list of texts, each trimmed. -/
def trimmedList? (doc : Json) : Option (List String) := do (← doc.items?).mapM trimmed?

/-- A text field. -/
def readText (f : Field) : List (String × Json) → Except Fault (Option String) :=
  f.read .text trimmed?

/-- A count. -/
def readCount (f : Field) : List (String × Json) → Except Fault (Option Nat) :=
  f.read .count Json.count?

/-- A number. -/
def readNumber (f : Field) : List (String × Json) → Except Fault (Option Binary64) :=
  f.read .number Json.number?

/-- A truth value. -/
def readFlag (f : Field) : List (String × Json) → Except Fault (Option Bool) :=
  f.read .flag Json.bool?

/-- A list of texts. -/
def readTextList (f : Field) : List (String × Json) → Except Fault (Option (List String)) :=
  f.read .textList trimmedList?

/-- A map of texts. -/
def readTextMap (f : Field) : List (String × Json) → Except Fault (Option (Dict String)) :=
  f.read .textMap Json.dict?

end Field

end ClusterBlueprint
