import ClusterBlueprint.Claim.Document
import ClusterBlueprint.Proofs.Claim.Fields
import ClusterBlueprint.Proofs.Json.Record
import ClusterBlueprint.Proofs.Network.BlockText
import ClusterBlueprint.Proofs.Schedule.WindowText
/-!
# Claim — the document of a spec is a claim for it

A claim leaves much open: older spellings, blanks around texts, defaults,
host bits of a block. The document of its spec leaves nothing open, and both
readers give the spec back from it: `Spec.ofJson?`, which expects every
field as it was written, and `Spec.ofClaim`, which trims, bounds and fills
in (`ofClaim_canonical`). The second has nothing left to do because reading
has done it already: texts are trimmed and counts are in range
(`Field.Canonical`).
-/

namespace ClusterBlueprint

open Text

/-! ## Documents of single values -/

/-- A block is read back from its document. -/
theorem AddressBlock.ofJson?_toJson (b : AddressBlock) : ofJson? b.toJson = some b := by
  rw [ofJson?, toJson, Json.text?, Option.bind_eq_bind, Option.bind_some, read_text]
  rfl

/-- A tier is read back from its document. -/
theorem Tier.ofJson?_toJson (t : Tier) : ofJson? t.toJson = some t := t.ofText?_text

/-- A backup window is read back from its document. -/
theorem BackupWindow.ofJson?_text (w : BackupWindow) : ofJson? (.text w.text) = some w := by
  rw [ofJson?, Json.text?, Option.bind_eq_bind, Option.bind_some, read_text]
  rfl

/-- A maintenance window is read back from its document. -/
theorem MaintenanceWindow.ofJson?_text (w : MaintenanceWindow) :
    ofJson? (.text w.text) = some w := by
  rw [ofJson?, Json.text?, Option.bind_eq_bind, Option.bind_some, read_text]
  rfl

/-! ## The fields of a document -/

namespace Spec

/-- The values of the fields of a spec. -/
def values (s : Spec) : (f : Field) → f.Value
  | .region => s.region
  | .vpc => s.vpc
  | .tiers => s.tiers
  | .sources => some s.sources
  | .backupWindow => s.backupWindow
  | .maintenanceWindow => s.maintenanceWindow
  | .environmentSuffix => s.environmentSuffix
  | .claimName => s.claimName
  | .clusterName => s.clusterName
  | .zoneCount => s.zoneCount
  | .engineVersion => s.engineVersion
  | .minCapacity => s.minCapacity
  | .maxCapacity => s.maxCapacity
  | .masterUser => s.masterUser
  | .databaseName => s.databaseName
  | .retentionDays => s.retentionDays
  | .deletionProtection => s.deletionProtection
  | .generatePassword => s.generatePassword
  | .masterPassword => s.masterPassword
  | .instanceCount => s.instanceCount
  | .instanceClass => s.instanceClass
  | .publiclyAccessible => s.publiclyAccessible
  | .tags => s.tags
  | .objectNamespace => s.objectNamespace
  | .providerConfig => s.providerConfig

/-- The fields of the document of a spec. -/
def documentFields (s : Spec) : List (String × Json) := s.toJson.fields?.getD []

theorem toJson_eq (s : Spec) : s.toJson = .object s.documentFields := rfl

end Spec

namespace Field

variable {f : Field} {claim : List (String × Json)}

/-- The key of a field in the document of a spec; that of the tags is their
older spelling. -/
def key : Field → String
  | .tags => "extraTags"
  | f => f.name

/-- What a document has under the key of a field: nothing for a password
that is absent. -/
def shown : (f : Field) → f.Value → Option Json
  | .vpc, b => some b.toJson
  | .tiers, ts => some (.array (ts.map Tier.toJson))
  | .sources, blocks => blocks.map fun bs => .array (bs.map AddressBlock.toJson)
  | .backupWindow, w => some (.text w.text)
  | .maintenanceWindow, w => some (.text w.text)
  | .clusterName, s => some (.ofText? s)
  | .masterPassword, s => s.map .text
  | .zoneCount, n | .retentionDays, n | .instanceCount, n => some (.nat n)
  | .minCapacity, x | .maxCapacity, x => some (.decimal x)
  | .deletionProtection, b | .generatePassword, b | .publiclyAccessible, b => some (.bool b)
  | .tags, d => some (.ofDict d)
  | .region, s | .environmentSuffix, s | .claimName, s | .engineVersion, s | .masterUser, s
  | .databaseName, s | .instanceClass, s | .objectNamespace, s | .providerConfig, s =>
    some (.text s)

/-- **What stands under the keys.** -/
theorem find?_documentFields (s : Spec) (f : Field) :
    Bindings.find? f.key s.documentFields = f.shown (s.values f) := by
  rw [Spec.documentFields, Spec.toJson, Spec.passwordField]
  cases f with
  | masterPassword =>
    simp only [shown, Spec.values]
    cases s.masterPassword <;> rfl
  | _ => cases s.masterPassword <;> rfl

/-- **What a claim finds in a document**: the same, except that `null` is
nothing. No other spelling of a field is a key. -/
theorem lookup_documentFields (s : Spec) (f : Field) :
    f.lookup s.documentFields = (f.shown (s.values f)).filter fun doc => !doc.isNull := by
  rw [Spec.documentFields, Spec.toJson, Spec.passwordField]
  cases f with
  | clusterName =>
    simp only [shown, Spec.values]
    cases s.clusterName <;> cases s.masterPassword <;> rfl
  | masterPassword =>
    simp only [shown, Spec.values]
    cases s.masterPassword <;> rfl
  | _ => cases s.masterPassword <;> rfl

/-! ## What reading leaves -/

/-- A value as reading leaves it: its texts are trimmed, its counts are in
range. -/
def Canonical : (f : Field) → f.Value → Prop
  | .zoneCount, n => n < 2 ^ 64
  | .retentionDays, n | .instanceCount, n => n ≤ Spec.largestCount
  | .clusterName, s | .masterPassword, s => ∀ t ∈ s, trim t = t
  | .region, s | .environmentSuffix, s | .claimName, s | .engineVersion, s | .masterUser, s
  | .databaseName, s | .instanceClass, s | .objectNamespace, s | .providerConfig, s => trim s = s
  | .vpc, _ | .tiers, _ | .sources, _ | .backupWindow, _ | .maintenanceWindow, _
  | .minCapacity, _ | .maxCapacity, _ | .deletionProtection, _ | .generatePassword, _
  | .publiclyAccessible, _ | .tags, _ => True

/-- A value that is read is one of a document under the field. -/
theorem exists_of_read {α : Type} {form : Form} {value? : Json → Option α} {a : α}
    (h : f.read form value? claim = .ok (some a)) : ∃ doc, value? doc = some a := by
  unfold read at h
  split at h
  · cases h
  · next doc _ =>
    split at h
    · next value hvalue =>
      obtain rfl : value = a := Option.some.inj (Except.ok.inj h)
      exact ⟨doc, hvalue⟩
    · cases h

/-- A text that is read has been trimmed. -/
theorem trim_of_readText {s : Option String} (h : f.readText claim = .ok s) :
    ∀ t ∈ s, trim t = t := by
  rintro t rfl
  obtain ⟨doc, hdoc⟩ := exists_of_read h
  obtain ⟨s, -, rfl⟩ := Option.map_eq_some_iff.1 hdoc
  exact trim_trim s

/-- And so has one that a default stands in for, if the default is
trimmed. -/
theorem trim_of_readText_getD {default s : String} (hdefault : trim default = default)
    (h : (f.readText claim).map (·.getD default) = .ok s) : trim s = s := by
  obtain ⟨found, hread, hs⟩ := Fallible.map_eq_ok.1 h
  obtain rfl : found.getD default = s := hs
  cases found with
  | none => exact hdefault
  | some t => exact trim_of_readText hread t rfl

/-- **Every value that is read is canonical.** -/
theorem canonical_of_value {a : f.Value} (h : f.value claim = .ok a) : f.Canonical a := by
  cases f with
  | region =>
    obtain ⟨found, hread, h⟩ := Fallible.bind_eq_ok.1 h
    cases found with
    | none => cases h
    | some name =>
      obtain rfl : name = a := Except.ok.inj h
      exact trim_of_readText hread name rfl
  | clusterName | masterPassword => exact trim_of_readText h
  | zoneCount =>
    obtain ⟨found, hread, rfl⟩ := Fallible.map_eq_ok.1 h
    cases found with
    | none =>
      simp only [Canonical, Option.getD_none]
      decide
    | some n =>
      obtain ⟨doc, hdoc⟩ := exists_of_read hread
      exact Json.lt_of_count? hdoc
  | retentionDays | instanceCount =>
    obtain ⟨found, -, rfl⟩ := Fallible.map_eq_ok.1 h
    exact Nat.min_le_right _ _
  | environmentSuffix | claimName | engineVersion | masterUser | databaseName | instanceClass
  | objectNamespace | providerConfig =>
    exact trim_of_readText_getD (trim_eq_self (List.all_eq_true.1 (by decide))) h
  | _ => trivial

/-! ## Reading what is shown -/

/-- Trimmed texts are read as they stand, also in a list. -/
theorem readTextList_of_lookup {α : Type} {toJson : α → Json} {text : α → String} {as : List α}
    (hdoc : f.lookup claim = some (.array (as.map toJson)))
    (htext : ∀ a, toJson a = .text (text a)) (htrim : ∀ a, trim (text a) = text a) :
    f.readTextList claim = .ok (some (as.map text)) := by
  have hitems : (as.map toJson).mapM trimmed? = some (as.map text) := by
    rw [List.mapM_map]
    refine Fallible.mapM_eq_pure fun a _ => ?_
    rw [Function.comp_apply, htext, trimmed?, Json.text?, Option.map_some, htrim]
    rfl
  exact read_of_lookup hdoc hitems

/-- A block is read, as the value of a field, from its text. -/
theorem readBlock_text (f : Field) (b : AddressBlock) : Spec.readBlock f b.text = .ok b := by
  rw [Spec.readBlock, b.read_text]
  rfl

/-- A tier is read from its text. -/
theorem readTier_text (t : Tier) : Spec.readTier t.text = .ok t := by
  rw [Spec.readTier, t.ofText?_text]

/-- A count that is not above the largest is read as it stands. -/
theorem boundedCount_of_le {default n : Nat} (h : n ≤ Spec.largestCount) :
    boundedCount default (some n) = n :=
  Nat.min_eq_left h

theorem count?_nat_of_le {n : Nat} (h : n ≤ Spec.largestCount) : (Json.nat n).count? = some n := by
  refine Json.count?_nat ?_
  have : n ≤ 2 ^ 32 - 1 := h
  omega

/-- **A claim that shows a canonical value is read to it.** -/
theorem value_of_shown {a : f.Value} (h : f.Canonical a)
    (hshown : f.lookup claim = (f.shown a).filter fun doc => !doc.isNull) :
    f.value claim = .ok a := by
  have htext : ∀ s : String, f.lookup claim = some (.text s) → trim s = s →
      f.readText claim = .ok (some s) := by
    rintro s hdoc hs
    refine readText_of_lookup hdoc ?_
    rintro t ⟨⟩
    exact hs
  cases f with
  | region | environmentSuffix | claimName | engineVersion | masterUser | databaseName
  | instanceClass | objectNamespace | providerConfig =>
    rw [value, htext a hshown h]
    rfl
  | clusterName | masterPassword =>
    refine readText_of_lookup (hshown.trans ?_) h
    cases a <;> rfl
  | vpc =>
    rw [value, htext a.text hshown a.trim_text, Fallible.ok_bind, Option.getD_some, readBlock_text]
  | backupWindow =>
    rw [value, htext a.text hshown a.trim_text, Fallible.ok_bind, Option.getD_some,
      Spec.readBackupWindow, a.read_text]
    rfl
  | maintenanceWindow =>
    rw [value, htext a.text hshown a.trim_text, Fallible.ok_bind, Option.getD_some,
      Spec.readMaintenanceWindow, a.read_text]
    rfl
  | tiers =>
    have htrim : ∀ t : Tier, trim t.text = t.text := fun t => by cases t <;> decide
    rw [value, readTextList_of_lookup hshown (fun _ => rfl) htrim]
    exact Fallible.mapM_map_eq_pure readTier_text a
  | sources =>
    cases a with
    | none =>
      rw [value, readTextList, read, hshown]
      rfl
    | some blocks =>
      rw [value, readTextList_of_lookup hshown (fun _ => rfl) AddressBlock.trim_text]
      show Except.map some ((blocks.map AddressBlock.text).mapM (Spec.readBlock .sources)) = _
      rw [Fallible.mapM_map_eq_pure (readBlock_text .sources)]
      rfl
  | zoneCount =>
    rw [value, readCount, read_of_lookup hshown (Json.count?_nat h)]
    rfl
  | retentionDays | instanceCount =>
    rw [value, readCount, read_of_lookup hshown (count?_nat_of_le h)]
    exact congrArg Except.ok (boundedCount_of_le h)
  | minCapacity | maxCapacity =>
    have hnumber : (Json.decimal a).number? = some a := rfl
    rw [value, readNumber, read_of_lookup hshown hnumber]
    rfl
  | deletionProtection | generatePassword | publiclyAccessible =>
    have hflag : (Json.bool a).bool? = some a := rfl
    rw [value, readFlag, read_of_lookup hshown hflag]
    rfl
  | tags =>
    rw [value, readTextMap, read_of_lookup hshown (Json.dict?_ofDict a)]
    rfl

end Field

/-! ## Specs and their documents -/

namespace Spec

variable {spec : Spec}

/-- A spec is the one of its values. -/
theorem ofValues_values (s : Spec) : ofValues s.values = s := rfl

/-- **The values of a spec that is read from a claim are canonical.** -/
theorem canonical_of_ofClaim {claim : Json} (h : ofClaim claim = .ok spec) (f : Field) :
    f.Canonical (spec.values f) := by
  obtain ⟨fields, v, -, hv, rfl, -⟩ := exists_values_of_ofClaim h
  have hcanonical := Field.canonical_of_value (hv f)
  cases f with
  | sources => trivial
  | _ => exact hcanonical

/-- **Read as a claim, the document of a spec gives the spec.** -/
theorem ofFields_documentFields (h : ∀ f : Field, f.Canonical (spec.values f)) :
    ofFields spec.documentFields = .ok spec := by
  rw [← ofValues_values spec]
  exact ofFields_of_values fun f =>
    Field.value_of_shown (h f) (Field.lookup_documentFields spec f)

/-- Reading a document goes on from a field that has to be there. -/
theorem bind_required? {α β : Type} {value? : Json → Option α} {doc : Json} {a : α}
    {rest : α → Option β} {b : β} (f : Field) (hdoc : f.shown (spec.values f) = some doc)
    (ha : value? doc = some a) (hrest : rest a = some b) :
    (Json.required? value? spec.documentFields f.key).bind rest = some b := by
  have hfield : Json.required? value? spec.documentFields f.key = some a := by
    rw [Json.required?, Field.find?_documentFields, hdoc]
    exact ha
  rw [hfield]
  exact hrest

/-- And from a text that may be absent, however that is shown. -/
theorem bind_optional? {β : Type} {s : Option String} {rest : Option String → Option β} {b : β}
    (f : Field)
    (hdoc : f.shown (spec.values f) = s.map .text ∨ f.shown (spec.values f) = some (.ofText? s))
    (hrest : rest s = some b) :
    (Json.optional? Json.text? spec.documentFields f.key).bind rest = some b := by
  have hfield : Json.optional? Json.text? spec.documentFields f.key = some s := by
    rw [Json.optional?, Field.find?_documentFields]
    rcases hdoc with hdoc | hdoc
    · rw [hdoc]
      cases s <;> rfl
    · rw [hdoc]
      cases s <;> rfl
  rw [hfield]
  exact hrest

/-- **Read as a document, the document of a spec gives the spec**, when the
counts are in range. -/
theorem ofJson?_toJson (h : ∀ f : Field, f.Canonical (spec.values f)) :
    ofJson? spec.toJson = some spec := by
  have hzones : spec.zoneCount < 2 ^ 64 := h .zoneCount
  have hcount : ∀ n, n ≤ largestCount → Json.countBelow? (2 ^ 32) (.nat n) = some n := by
    intro n hn
    exact Json.countBelow?_nat (Nat.lt_of_le_of_lt hn (by decide)) (by decide)
  rw [toJson_eq, ofJson?, Json.record?, Option.bind_eq_bind, Option.bind_some]
  exact
    bind_required? .region rfl rfl <|
    bind_required? .environmentSuffix rfl rfl <|
    bind_required? .claimName rfl rfl <|
    bind_optional? .clusterName (.inr rfl) <|
    bind_required? .vpc rfl spec.vpc.ofJson?_toJson <|
    bind_required? .zoneCount rfl (Json.count?_nat hzones) <|
    bind_required? .tiers rfl (Json.list?_map Tier.ofJson?_toJson _) <|
    bind_required? .sources rfl (Json.list?_map AddressBlock.ofJson?_toJson _) <|
    bind_required? .engineVersion rfl rfl <|
    bind_required? .minCapacity rfl rfl <|
    bind_required? .maxCapacity rfl rfl <|
    bind_required? .masterUser rfl rfl <|
    bind_required? .databaseName rfl rfl <|
    bind_required? .retentionDays rfl (hcount _ (h .retentionDays)) <|
    bind_required? .backupWindow rfl spec.backupWindow.ofJson?_text <|
    bind_required? .maintenanceWindow rfl spec.maintenanceWindow.ofJson?_text <|
    bind_required? .deletionProtection rfl rfl <|
    bind_required? .generatePassword rfl rfl <|
    bind_optional? .masterPassword (.inl rfl) <|
    bind_required? .instanceCount rfl (hcount _ (h .instanceCount)) <|
    bind_required? .instanceClass rfl rfl <|
    bind_required? .publiclyAccessible rfl rfl <|
    bind_required? .tags rfl (Json.dict?_ofDict spec.tags) <|
    bind_required? .objectNamespace rfl rfl <|
    bind_required? .providerConfig rfl rfl rfl

/-- **The document of a claim's spec is read back to the spec**, as a
document and as a claim. -/
theorem ofClaim_canonical {claim : Json} (h : ofClaim claim = .ok spec) :
    ofJson? spec.toJson = some spec ∧ ofClaim spec.toJson = .ok spec := by
  have hcanonical := canonical_of_ofClaim h
  refine ⟨ofJson?_toJson hcanonical, ?_⟩
  rw [toJson_eq]
  exact ofClaim_object_eq_ok_iff.2 ⟨ofFields_documentFields hcanonical, check_of_ofClaim h⟩

/-- A claim in older spellings, with blanks, an address inside its block and
a minute in one digit: none of that is left in the document. -/
theorem ofClaim_canonical_lenient :
    let claim : Json := .object
      [("backupWindow", .text " 03: 5-04:00"), ("envSuffix", .text "prod "),
        ("location", .text " us-west-2"), ("tags", .object [("team", .text " db ")]),
        ("vpcCidr", .text "10.20.30.40/16")]
    ∃ spec, ofClaim claim = .ok spec ∧
      spec.region = "us-west-2" ∧ spec.environmentSuffix = "prod" ∧
      spec.backupWindow.text = "03:05-04:00" ∧ spec.vpc.text = "10.20.0.0/16" ∧
      ofJson? spec.toJson = some spec ∧ ofClaim spec.toJson = .ok spec := by
  intro claim
  have hread : ((ofClaim claim).toOption.map fun spec =>
      (spec.region, spec.environmentSuffix, spec.backupWindow.text, spec.vpc.text)) =
        some ("us-west-2", "prod", "03:05-04:00", "10.20.0.0/16") := by decide +kernel
  obtain ⟨spec, hspec, hparts⟩ := Option.map_eq_some_iff.1 hread
  obtain ⟨hregion, hsuffix, hwindow, hvpc⟩ :
      spec.region = "us-west-2" ∧ spec.environmentSuffix = "prod" ∧
        spec.backupWindow.text = "03:05-04:00" ∧ spec.vpc.text = "10.20.0.0/16" := by
    simpa only [Prod.mk.injEq] using hparts
  have hspec : ofClaim claim = .ok spec := Fallible.toOption_eq_some_iff.1 hspec
  exact ⟨spec, hspec, hregion, hsuffix, hwindow, hvpc, ofClaim_canonical hspec⟩

end Spec

end ClusterBlueprint
