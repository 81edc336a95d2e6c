import ClusterBlueprint.Claim.Reading
import ClusterBlueprint.Json.Record
/-!
# Claim — the document of a spec

A spec is kept as a document: one field for each of its own, blocks and
windows as their texts. Reading such a document is stricter than reading a
claim. Every field has to be there, nothing is trimmed and nothing is
checked beyond the form of each value.
-/

namespace ClusterBlueprint

namespace AddressBlock

/-- A block as a document. -/
def toJson (b : AddressBlock) : Json := .text b.text

/-- The block of a document. -/
def ofJson? (doc : Json) : Option AddressBlock := do (AddressBlock.read (← doc.text?)).toOption

end AddressBlock

namespace Tier

/-- A tier as a document. -/
def toJson (t : Tier) : Json := .text t.text

/-- The tier of a document. -/
def ofJson? (doc : Json) : Option Tier := do ofText? (← doc.name?)

end Tier

namespace BackupWindow

/-- The window of a document. -/
def ofJson? (doc : Json) : Option BackupWindow := do (read (← doc.text?)).toOption

end BackupWindow

namespace MaintenanceWindow

/-- The window of a document. -/
def ofJson? (doc : Json) : Option MaintenanceWindow := do (read (← doc.text?)).toOption

end MaintenanceWindow

namespace Spec

/-- The field of the document that holds the password; it is absent when
there is none. -/
def passwordField (s : Spec) : List (String × Json) :=
  match s.masterPassword with
  | some password => [("masterPassword", .text password)]
  | none => []

/-- A spec as a document. -/
def toJson (s : Spec) : Json :=
  .object <|
    [("allowedCidrs", .array (s.sources.map AddressBlock.toJson)),
      ("azCount", .nat s.zoneCount),
      ("backupRetentionDays", .nat s.retentionDays),
      ("backupWindow", .text s.backupWindow.text),
      ("claimName", .text s.claimName),
      ("clusterName", .ofText? s.clusterName),
      ("databaseName", .text s.databaseName),
      ("deletionProtection", .bool s.deletionProtection),
      ("engineVersion", .text s.engineVersion),
      ("environmentSuffix", .text s.environmentSuffix),
      ("extraTags", .ofDict s.tags),
      ("generatePassword", .bool s.generatePassword),
      ("instanceClass", .text s.instanceClass),
      ("instanceCount", .nat s.instanceCount),
      ("maintenanceWindow", .text s.maintenanceWindow.text)]
    ++ s.passwordField
    ++ [("masterUsername", .text s.masterUser),
      ("maxCapacity", .decimal s.maxCapacity),
      ("minCapacity", .decimal s.minCapacity),
      ("namespace", .text s.objectNamespace),
      ("providerConfigRef", .text s.providerConfig),
      ("publiclyAccessible", .bool s.publiclyAccessible),
      ("region", .text s.region),
      ("subnetTiers", .array (s.tiers.map Tier.toJson)),
      ("vpcCidr", s.vpc.toJson)]

/-- The fields of the document in the order in which a document without keys
lists their values. -/
def documentKeys : List String :=
  ["region", "environmentSuffix", "claimName", "clusterName", "vpcCidr", "azCount", "subnetTiers",
    "allowedCidrs", "engineVersion", "minCapacity", "maxCapacity", "masterUsername",
    "databaseName", "backupRetentionDays", "backupWindow", "maintenanceWindow",
    "deletionProtection", "generatePassword", "masterPassword", "instanceCount", "instanceClass",
    "publiclyAccessible", "extraTags", "namespace", "providerConfigRef"]

/-- The spec of a document. -/
def ofJson? (doc : Json) : Option Spec := do
  let fields ← doc.record? documentKeys
  let text := Json.required? Json.text? fields
  let flag := Json.required? Json.bool? fields
  let number := Json.required? Json.number? fields
  let optionalText := Json.optional? Json.text? fields
  pure
    { region := ← text "region"
      environmentSuffix := ← text "environmentSuffix"
      claimName := ← text "claimName"
      clusterName := ← optionalText "clusterName"
      vpc := ← Json.required? AddressBlock.ofJson? fields "vpcCidr"
      zoneCount := ← Json.required? Json.count? fields "azCount"
      tiers := ← Json.required? (Json.list? Tier.ofJson?) fields "subnetTiers"
      sources := ← Json.required? (Json.list? AddressBlock.ofJson?) fields "allowedCidrs"
      engineVersion := ← text "engineVersion"
      minCapacity := ← number "minCapacity"
      maxCapacity := ← number "maxCapacity"
      masterUser := ← text "masterUsername"
      databaseName := ← text "databaseName"
      retentionDays := ← Json.required? (Json.countBelow? (2 ^ 32)) fields "backupRetentionDays"
      backupWindow := ← Json.required? BackupWindow.ofJson? fields "backupWindow"
      maintenanceWindow := ← Json.required? MaintenanceWindow.ofJson? fields "maintenanceWindow"
      deletionProtection := ← flag "deletionProtection"
      generatePassword := ← flag "generatePassword"
      masterPassword := ← optionalText "masterPassword"
      instanceCount := ← Json.required? (Json.countBelow? (2 ^ 32)) fields "instanceCount"
      instanceClass := ← text "instanceClass"
      publiclyAccessible := ← flag "publiclyAccessible"
      tags := ← Json.required? Json.dict? fields "extraTags"
      objectNamespace := ← text "namespace"
      providerConfig := ← text "providerConfigRef" }

/-- The spec whose document has the fields of `patch` written over those of
this one's. -/
def patched? (s : Spec) (patch : List (String × Json)) : Option Spec := do
  ofJson? (.object (Bindings.putAll (← s.toJson.fields?) patch))

end Spec

end ClusterBlueprint
