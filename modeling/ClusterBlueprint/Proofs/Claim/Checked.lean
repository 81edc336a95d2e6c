import ClusterBlueprint.Claim.Field
import ClusterBlueprint.Claim.Spec
import ClusterBlueprint.Proofs.Naming.Label
/-!
# Claim — what a checked spec is known to meet

`Spec.check` is one chain of rules, and a chain passes exactly when every
rule in it does (`check_eq_ok_iff`). This file gives the chain as the list
of its rules and reads off it what a blueprint builds on (`Checked`). The
rules judge one value each, so that writing a password into a checked spec
leaves only the password to be judged (`check_password`). What they find
wrong is the fault of one field, the one whose rule it breaks
(`exists_ruleOf_of_check`), or of a network block that is too small, and so
always a fault of the claim (`isInternal_of_check`).
-/

namespace ClusterBlueprint

namespace Spec

open Rules Naming

variable {s : Spec}

/-- The rule of a password that the claim may carry. -/
def passwordRule (password : Option String) : Except Fault Unit :=
  match password with
  | some password => checkPassword password
  | none => pure ()

/-- The rule of a cluster name that the claim may carry. -/
def clusterNameRule (name : Option String) : Except Fault Unit :=
  match name with
  | some name => checkLabel "clusterName" name 63
  | none => pure ()

/-- The rules in the order in which they are applied. -/
def rules (s : Spec) : List (Except Fault Unit) :=
  [require (Text.trim s.region ≠ "") "region" .empty,
    checkLabel "environmentSuffix" s.environmentSuffix 20,
    checkLabel "claimName" s.claimName 30,
    clusterNameRule s.clusterName,
    checkZoneCount s.zoneCount,
    checkCapacities s.minCapacity s.maxCapacity,
    checkRetention s.retentionDays,
    (checkEngineVersion s.engineVersion).map fun _ => (),
    checkUser s.masterUser,
    checkInstanceCount s.instanceCount,
    checkWindows s.backupWindow s.maintenanceWindow,
    checkDatabaseName s.databaseName,
    checkInstanceClass s.instanceClass,
    passwordRule s.masterPassword,
    checkTiers s.tiers,
    require (s.sources ≠ []) "allowedCidrs" .noSources,
    checkTagKeys s.tags,
    checkVpc s.vpc s.zoneCount s.tiers]

/-- Applies rules until one fails. -/
def applyAll : List (Except Fault Unit) → Except Fault Unit
  | [] => .ok ()
  | rule :: rest => do
    rule
    applyAll rest

/-- The last rule decides the rest. -/
theorem applyAll_singleton (rule : Except Fault Unit) : applyAll [rule] = rule := by
  cases rule <;> rfl

/-- **The check applies the rules one after the other.** -/
theorem check_eq_applyAll (s : Spec) : s.check = applyAll s.rules := by
  have hversion : ∀ rest : List (Except Fault Unit),
      applyAll ((checkEngineVersion s.engineVersion).map (fun _ => ()) :: rest) =
        checkEngineVersion s.engineVersion >>= fun _ => applyAll rest := by
    intro rest
    cases checkEngineVersion s.engineVersion <;> rfl
  have hstep : ∀ (rule next : Except Fault Unit) (rest : List (Except Fault Unit)),
      applyAll (rule :: next :: rest) = rule >>= fun _ => applyAll (next :: rest) :=
    fun _ _ _ => rfl
  unfold check rules
  simp only [hversion, hstep, applyAll_singleton]
  cases s.clusterName <;> cases s.masterPassword <;> rfl

/-- A chain passes when all of it does. -/
theorem applyAll_eq_ok_iff {rules : List (Except Fault Unit)} :
    applyAll rules = .ok () ↔ ∀ rule ∈ rules, rule = .ok () := by
  induction rules with
  | nil => simp [applyAll]
  | cons rule rest ih =>
    rw [applyAll, Fallible.bind_eq_ok, List.forall_mem_cons, ← ih]
    exact ⟨fun ⟨_, hr, hrest⟩ => ⟨hr, hrest⟩, fun ⟨hr, hrest⟩ => ⟨(), hr, hrest⟩⟩

/-- A chain fails with the fault of one of its rules. -/
theorem mem_of_applyAll_eq_error {rules : List (Except Fault Unit)} {cause : Fault}
    (h : applyAll rules = .error cause) : .error cause ∈ rules := by
  induction rules with
  | nil => cases h
  | cons rule rest ih =>
    rcases Fallible.bind_eq_error.1 h with rfl | ⟨_, -, h⟩
    · exact List.mem_cons_self
    · exact List.mem_cons_of_mem _ (ih h)

/-- **A spec passes when it meets every rule.** -/
theorem check_eq_ok_iff : s.check = .ok () ↔ ∀ rule ∈ s.rules, rule = .ok () := by
  rw [check_eq_applyAll, applyAll_eq_ok_iff]

/-! ## What is known of a spec that passes -/

/-- What a blueprint builds on. -/
structure Checked (s : Spec) : Prop where
  suffix : Label 20 s.environmentSuffix
  claimName : Label 30 s.claimName
  clusterName : ∀ name, s.clusterName = some name → Label 63 name
  zoneCount : 1 ≤ s.zoneCount ∧ s.zoneCount ≤ 3
  instanceCount : 1 ≤ s.instanceCount ∧ s.instanceCount ≤ 15
  database : .database ∈ s.tiers
  room : Plan.checkRoom s.vpc s.zoneCount s.tiers = .ok ()

theorem checked_of_check (h : s.check = .ok ()) : Checked s := by
  have hall := check_eq_ok_iff.1 h
  simp only [rules, List.forall_mem_cons] at hall
  obtain ⟨-, hsuffix, hclaim, hcluster, hzones, -, -, -, -, hinstances, -, -, -, -, htiers, -, -,
    hvpc, -⟩ := hall
  refine ⟨label_of_checkLabel hsuffix, label_of_checkLabel hclaim, ?_, ?_, ?_, ?_, ?_⟩
  · intro name hname
    rw [hname] at hcluster
    exact label_of_checkLabel hcluster
  · simpa [checkZoneCount, require_eq_ok_iff] using hzones
  · simpa [checkInstanceCount, require_eq_ok_iff] using hinstances
  · unfold checkTiers at htiers
    split at htiers
    · cases htiers
    · exact of_decide_eq_true (require_eq_ok_iff.1 htiers)
  · obtain ⟨_, -, hroom⟩ := Fallible.bind_eq_ok.1 hvpc
    exact hroom

/-- **A password that passes on its own passes in a checked spec.** -/
theorem check_password {password : String} (h : s.check = .ok ())
    (hp : checkPassword password = .ok ()) :
    ({ s with masterPassword := some password } : Spec).check = .ok () := by
  have hall := check_eq_ok_iff.1 h
  rw [check_eq_ok_iff]
  simp only [rules, List.forall_mem_cons] at hall ⊢
  obtain ⟨h1, h2, h3, h4, h5, h6, h7, h8, h9, h10, h11, h12, h13, -, hrest⟩ := hall
  exact ⟨h1, h2, h3, h4, h5, h6, h7, h8, h9, h10, h11, h12, h13, hp, hrest⟩

/-- A password that a checked spec carries passes on its own. -/
theorem checkPassword_of_check {password : String} (h : s.check = .ok ())
    (hp : s.masterPassword = some password) : checkPassword password = .ok () := by
  have hrule := check_eq_ok_iff.1 h (passwordRule s.masterPassword) (by simp [rules])
  rwa [hp] at hrule

/-! ## What is found wrong with a spec -/

variable {α β : Type} {field : String}

/-- Fails, if at all, with a fault of one field. -/
def Blames (field : String) (x : Except Fault α) : Prop :=
  ∀ cause, x = .error cause → ∃ why, cause = .field field why

theorem blames_ok (field : String) (a : α) : Blames field (.ok a : Except Fault α) :=
  fun _ h => by cases h

theorem blames_field (field : String) (why : FieldFault) :
    Blames field (.error (.field field why) : Except Fault α) := by
  intro cause h
  cases h
  exact ⟨why, rfl⟩

theorem blames_bind {x : Except Fault α} {f : α → Except Fault β} (hx : Blames field x)
    (hf : ∀ a, Blames field (f a)) : Blames field (x >>= f) := by
  intro cause h
  rcases Fallible.bind_eq_error.1 h with h | ⟨a, -, h⟩
  · exact hx cause h
  · exact hf a cause h

theorem blames_map {x : Except Fault α} (f : α → β) (hx : Blames field x) :
    Blames field (x.map f) := by
  rw [Fallible.map_eq_bind]
  exact blames_bind hx fun a => blames_ok field (f a)

theorem blames_require (holds : Bool) (field : String) (why : FieldFault) :
    Blames field (require holds field why) := by
  cases holds
  · exact blames_field field why
  · exact blames_ok field ()

theorem blames_checkLabel (field value : String) (limit : Nat) :
    Blames field (checkLabel field value limit) := by
  refine blames_bind (blames_require _ _ _) fun _ => blames_bind (blames_require _ _ _) fun _ => ?_
  split
  · exact blames_field _ _
  · exact blames_require _ _ _

theorem blames_clusterNameRule (name : Option String) :
    Blames "clusterName" (clusterNameRule name) := by
  cases name with
  | none => exact blames_ok _ ()
  | some name => exact blames_checkLabel _ _ _

theorem blames_checkCapacity (field : String) (value : Binary64) :
    Blames field (checkCapacity field value) :=
  blames_bind (blames_require _ _ _) fun _ =>
    blames_bind (blames_require _ _ _) fun _ => blames_require _ _ _

theorem blames_checkEngineVersion (version : String) :
    Blames "engineVersion" (checkEngineVersion version) := by
  unfold checkEngineVersion
  split
  · exact blames_ok _ _
  · exact blames_field _ _

theorem blames_checkUser (name : String) : Blames "masterUsername" (checkUser name) :=
  blames_bind (blames_require _ _ _) fun _ =>
    blames_bind (blames_require _ _ _) fun _ => blames_require _ _ _

theorem blames_passwordRule (password : Option String) :
    Blames "masterPassword" (passwordRule password) := by
  cases password with
  | none => exact blames_ok _ ()
  | some password =>
    exact blames_bind (blames_require _ _ _) fun _ => blames_require _ _ _

theorem blames_checkTiers (tiers : List Tier) : Blames "subnetTiers" (checkTiers tiers) := by
  unfold checkTiers
  split
  · exact blames_field _ _
  · exact blames_require _ _ _

theorem blames_checkTagKeys (tags : Dict String) : Blames "tags" (checkTagKeys tags) := by
  unfold checkTagKeys
  split
  · exact blames_field _ _
  · exact blames_ok _ ()

/-! ## The rule of a field -/

/-- What the check asks of a field: everything that it blames on it. -/
def ruleOf (s : Spec) : Field → Except Fault Unit
  | .region => require (Text.trim s.region ≠ "") "region" .empty
  | .environmentSuffix => checkLabel "environmentSuffix" s.environmentSuffix 20
  | .claimName => checkLabel "claimName" s.claimName 30
  | .clusterName => clusterNameRule s.clusterName
  | .zoneCount => checkZoneCount s.zoneCount
  | .minCapacity => do
    checkCapacity "minCapacity" s.minCapacity
    require (!s.maxCapacity.lt s.minCapacity) "minCapacity"
      (.capacityOrder s.minCapacity s.maxCapacity)
  | .maxCapacity => checkCapacity "maxCapacity" s.maxCapacity
  | .retentionDays => checkRetention s.retentionDays
  | .engineVersion => (checkEngineVersion s.engineVersion).map fun _ => ()
  | .masterUser => checkUser s.masterUser
  | .instanceCount => checkInstanceCount s.instanceCount
  | .maintenanceWindow => checkWindows s.backupWindow s.maintenanceWindow
  | .databaseName => checkDatabaseName s.databaseName
  | .instanceClass => checkInstanceClass s.instanceClass
  | .masterPassword => passwordRule s.masterPassword
  | .tiers => checkTiers s.tiers
  | .sources => require (s.sources ≠ []) "allowedCidrs" .noSources
  | .tags => checkTagKeys s.tags
  | .vpc => require (16 ≤ s.vpc.length && s.vpc.length ≤ 28) "vpcCidr" (.blockLength s.vpc.length)
  | .backupWindow | .deletionProtection | .generatePassword | .publiclyAccessible
  | .objectNamespace | .providerConfig => .ok ()

/-- **A field is blamed by its own name.** -/
theorem blames_ruleOf (s : Spec) (f : Field) : Blames f.name (s.ruleOf f) := by
  cases f with
  | environmentSuffix | claimName => exact blames_checkLabel _ _ _
  | clusterName => exact blames_clusterNameRule _
  | minCapacity => exact blames_bind (blames_checkCapacity _ _) fun _ => blames_require _ _ _
  | maxCapacity => exact blames_checkCapacity _ _
  | engineVersion => exact blames_map _ (blames_checkEngineVersion _)
  | masterUser => exact blames_checkUser _
  | masterPassword => exact blames_passwordRule _
  | tiers => exact blames_checkTiers _
  | tags => exact blames_checkTagKeys _
  | backupWindow | deletionProtection | generatePassword | publiclyAccessible | objectNamespace
  | providerConfig => exact blames_ok _ ()
  | _ => exact blames_require _ _ _

/-- **A spec that passes meets the rule of every field.** -/
theorem ruleOf_of_check (h : s.check = .ok ()) (f : Field) : s.ruleOf f = .ok () := by
  have hall := check_eq_ok_iff.1 h
  simp only [rules, List.forall_mem_cons] at hall
  obtain ⟨hregion, hsuffix, hclaim, hcluster, hzones, hcapacities, hretention, hversion, huser,
    hmembers, hwindows, hdatabase, hclass, hpassword, htiers, hsources, htags, hvpc, -⟩ := hall
  obtain ⟨_, hmin, hcapacities⟩ := Fallible.bind_eq_ok.1 hcapacities
  obtain ⟨_, hmax, horder⟩ := Fallible.bind_eq_ok.1 hcapacities
  obtain ⟨_, hlength, -⟩ := Fallible.bind_eq_ok.1 hvpc
  cases f with
  | region => exact hregion
  | vpc => exact hlength
  | tiers => exact htiers
  | sources => exact hsources
  | maintenanceWindow => exact hwindows
  | environmentSuffix => exact hsuffix
  | claimName => exact hclaim
  | clusterName => exact hcluster
  | zoneCount => exact hzones
  | engineVersion => exact hversion
  | minCapacity => exact Fallible.bind_eq_ok.2 ⟨(), hmin, horder⟩
  | maxCapacity => exact hmax
  | masterUser => exact huser
  | databaseName => exact hdatabase
  | retentionDays => exact hretention
  | masterPassword => exact hpassword
  | instanceCount => exact hmembers
  | instanceClass => exact hclass
  | tags => exact htags
  | backupWindow | deletionProtection | generatePassword | publiclyAccessible | objectNamespace
  | providerConfig => rfl

/-- **A spec that fails breaks the rule of a field**, or its network block
is too small for the layout. -/
theorem exists_ruleOf_of_check {cause : Fault} (h : s.check = .error cause) :
    (∃ block required available, cause = .blockExhausted block required available) ∨
      ∃ f, s.ruleOf f = .error cause := by
  have hrule : Except.error cause ∈ s.rules := by
    rw [check_eq_applyAll] at h
    exact mem_of_applyAll_eq_error h
  have hfield : ∀ f, Except.error cause = s.ruleOf f → ∃ f, s.ruleOf f = .error cause :=
    fun f hf => ⟨f, hf.symm⟩
  simp only [rules, List.mem_cons, List.not_mem_nil, or_false] at hrule
  rcases hrule with h | h | h | h | h | h | h | h | h | h | h | h | h | h | h | h | h | h
  · exact Or.inr (hfield .region h)
  · exact Or.inr (hfield .environmentSuffix h)
  · exact Or.inr (hfield .claimName h)
  · exact Or.inr (hfield .clusterName h)
  · exact Or.inr (hfield .zoneCount h)
  -- the two ends of the range are judged before their order
  · refine Or.inr ?_
    rcases Fallible.bind_eq_error.1 h.symm with hmin | ⟨_, hmin, h⟩
    · exact ⟨.minCapacity, Fallible.bind_eq_error.2 (Or.inl hmin)⟩
    rcases Fallible.bind_eq_error.1 h with hmax | ⟨_, -, horder⟩
    · exact ⟨.maxCapacity, hmax⟩
    · exact ⟨.minCapacity, Fallible.bind_eq_error.2 (Or.inr ⟨(), hmin, horder⟩)⟩
  · exact Or.inr (hfield .retentionDays h)
  · exact Or.inr (hfield .engineVersion h)
  · exact Or.inr (hfield .masterUser h)
  · exact Or.inr (hfield .instanceCount h)
  · exact Or.inr (hfield .maintenanceWindow h)
  · exact Or.inr (hfield .databaseName h)
  · exact Or.inr (hfield .instanceClass h)
  · exact Or.inr (hfield .masterPassword h)
  · exact Or.inr (hfield .tiers h)
  · exact Or.inr (hfield .sources h)
  · exact Or.inr (hfield .tags h)
  · rcases Fallible.bind_eq_error.1 h.symm with hlength | ⟨_, -, hroom⟩
    · exact Or.inr ⟨.vpc, hlength⟩
    · simp only [Plan.checkRoom] at hroom
      split at hroom
      · exact Or.inl ⟨_, _, _, (Except.error.inj hroom).symm⟩
      · cases hroom

/-- **A spec is only ever refused for what it says.** -/
theorem isInternal_of_check {cause : Fault} (h : s.check = .error cause) :
    cause.isInternal = false := by
  rcases exists_ruleOf_of_check h with ⟨_, _, _, rfl⟩ | ⟨f, hf⟩
  · rfl
  · obtain ⟨why, rfl⟩ := s.blames_ruleOf f cause hf
    rfl

end Spec

end ClusterBlueprint
