import ClusterBlueprint.Proofs.Claim.Defaults
import ClusterBlueprint.Proofs.Claim.Fields
/-!
# Claim — normal form

A claim may say `null` for nothing, use an older spelling, or have keys that
mean nothing here. Its normal form has none of that: nulls and unknown keys
are dropped, and what stands under an older spelling is moved to the
canonical one, unless that one says something itself (`Field.normalize`).
The normal form is read to the same spec, or refused for the same fault
(`ofClaim_normalize`). Every move keeps what each field is looked up to
(`Field.lookup_settle`), and that is all that reading depends on.
-/

namespace ClusterBlueprint

namespace Bindings

variable {α : Type}

/-- The bindings of the keys that are kept. -/
def restrict (keeps : String → Bool) (bs : List (String × α)) : List (String × α) :=
  bs.filter fun b => keeps b.1

/-- A key that is kept has what it had. -/
theorem find?_restrict (keeps : String → Bool) (k : String) (bs : List (String × α)) :
    find? k (restrict keeps bs) = if keeps k then find? k bs else none := by
  induction bs with
  | nil => simp [restrict, find?]
  | cons b bs ih =>
    rw [restrict] at ih
    rw [restrict, List.filter_cons]
    by_cases hb : keeps b.1 = true
    · rw [if_pos hb, find?, find?, ih]
      by_cases hk : b.1 = k
      · rw [if_pos hk, if_pos hk, if_pos (hk ▸ hb)]
      · rw [if_neg hk, if_neg hk]
    · rw [if_neg hb, ih, find?]
      by_cases hk : b.1 = k
      · rw [if_neg (hk ▸ hb), if_neg (hk ▸ hb)]
      · rw [if_neg hk]

end Bindings

namespace Field

variable {f g : Field} {old key : String} {claim : List (String × Json)}

/-! ## Spellings -/

/-- Every field. -/
def all : List Field :=
  [region, vpc, tiers, sources, backupWindow, maintenanceWindow, environmentSuffix, claimName,
    clusterName, zoneCount, engineVersion, minCapacity, maxCapacity, masterUser, databaseName,
    retentionDays, deletionProtection, generatePassword, masterPassword, instanceCount,
    instanceClass, publiclyAccessible, tags, objectNamespace, providerConfig]

theorem mem_all (f : Field) : f ∈ all := by cases f <;> decide

/-- The field that a key is a spelling of. -/
def ofKey? (key : String) : Option Field := all.find? fun f => key ∈ f.spellings

/-- **Spellings tell fields apart.** -/
theorem ofKey?_eq_some (h : key ∈ f.spellings) : ofKey? key = some f := by
  have hall : ∀ f ∈ all, ∀ key ∈ f.spellings, ofKey? key = some f := by decide +kernel
  exact hall f (mem_all f) key h

/-- A known key is a spelling. -/
theorem mem_spellings_of_ofKey? (h : ofKey? key = some f) : key ∈ f.spellings := by
  simpa using List.find?_some h

/-- A field has at most one older spelling. -/
theorem aliases_eq_singleton (h : old ∈ f.aliases) : f.aliases = [old] := by
  cases f <;> simp_all [aliases]

/-- An older spelling is nobody's canonical one. -/
theorem name_ne_of_mem_aliases (h : old ∈ f.aliases) (g : Field) : g.name ≠ old := by
  rintro rfl
  have hname : ofKey? g.name = some g := ofKey?_eq_some List.mem_cons_self
  obtain rfl : g = f :=
    Option.some.inj (hname.symm.trans (ofKey?_eq_some (List.mem_cons_of_mem _ h)))
  have hall : ∀ f ∈ all, f.name ∉ f.aliases := by decide +kernel
  exact hall g (mem_all g) h

/-! ## What a claim says under a key -/

/-- What a claim says under a key; `null` says nothing. -/
def said? (key : String) (claim : List (String × Json)) : Option Json :=
  (Bindings.find? key claim).filter fun value => !value.isNull

/-- **A field is looked up to the first thing that is said** under its
spellings. -/
theorem lookup_eq_head? (f : Field) (claim : List (String × Json)) :
    f.lookup claim = (f.spellings.filterMap fun key => said? key claim).head? := by
  rw [lookup, ← List.head?_filter, List.filter_filterMap]
  rfl

/-- Claims that say the same under its spellings have one value for a
field. -/
theorem lookup_congr_of_said? {claim' : List (String × Json)}
    (h : ∀ key ∈ f.spellings, said? key claim' = said? key claim) :
    f.lookup claim' = f.lookup claim := by
  rw [lookup_eq_head?, lookup_eq_head?, List.filterMap_congr h]

/-! ## The normal form -/

/-- The claim without nulls and unknown keys. -/
def sifted (claim : List (String × Json)) : List (String × Json) :=
  Bindings.restrict (fun key => (ofKey? key).isSome && (said? key claim).isSome) claim

/-- Moves what is said under an older spelling of a field to the canonical
one. Where that says something, the older one is dropped. -/
def settle (f : Field) (old : String) (claim : List (String × Json)) : List (String × Json) :=
  let rest := Bindings.restrict (fun key => key ≠ old) claim
  match said? old claim, said? f.name claim with
  | some value, none => Bindings.put f.name value rest
  | _, _ => rest

/-- The older spellings, each with its field. -/
def older : List (Field × String) := all.flatMap fun f => f.aliases.map fun old => (f, old)

/-- Settles one older spelling after the other. -/
def settleAll (moves : List (Field × String)) (claim : List (String × Json)) :
    List (String × Json) :=
  moves.foldl (fun claim move => settle move.1 move.2 claim) claim

/-- **The normal form of a claim.** -/
def normalize (claim : List (String × Json)) : List (String × Json) :=
  settleAll older (sifted claim)

/-- A claim that has canonical spellings only, and no nulls. -/
def IsNormal (claim : List (String × Json)) : Prop :=
  ∀ key value, Bindings.find? key claim = some value →
    value.isNull = false ∧ ∃ f : Field, key = f.name

theorem mem_older {move : Field × String} : move ∈ older ↔ move.2 ∈ move.1.aliases := by
  obtain ⟨f, old⟩ := move
  simp only [older, List.mem_flatMap, List.mem_map, Prod.mk.injEq]
  constructor
  · rintro ⟨g, -, a, ha, rfl, rfl⟩
    exact ha
  · intro h
    exact ⟨f, mem_all f, old, h, rfl, rfl⟩

/-- **Four spellings are older ones.** -/
theorem older_eq : older.map (fun move => (move.2, move.1.name)) =
    [("location", "region"), ("envSuffix", "environmentSuffix"),
      ("backupRetentionPeriod", "backupRetentionDays"), ("extraTags", "tags")] := by
  decide

/-! ## What the steps keep -/

/-- What is left by sifting. -/
theorem find?_sifted (key : String) (claim : List (String × Json)) :
    Bindings.find? key (sifted claim) = if (ofKey? key).isSome then said? key claim else none := by
  rw [sifted, Bindings.find?_restrict, said?]
  cases ofKey? key with
  | none => rfl
  | some f =>
    cases Bindings.find? key claim with
    | none => rfl
    | some value => cases hnull : value.isNull <;> simp [Option.filter, hnull]

/-- **Sifting keeps what a field is looked up to.** -/
theorem lookup_sifted (f : Field) (claim : List (String × Json)) :
    f.lookup (sifted claim) = f.lookup claim := by
  refine lookup_congr_of_said? fun key hkey => ?_
  rw [said?, find?_sifted, ofKey?_eq_some hkey, Option.isSome_some, if_pos rfl, said?,
    Option.filter_filter]
  simp

/-- **What is left by settling a spelling**: nothing under it, and under the
canonical one what either said. -/
theorem said?_settle (hne : f.name ≠ old) (key : String) (claim : List (String × Json)) :
    said? key (settle f old claim) =
      if key = old then none
      else if key = f.name then (said? f.name claim).or (said? old claim)
      else said? key claim := by
  have hrest : said? key (Bindings.restrict (fun key => key ≠ old) claim) =
      if key = old then none else said? key claim := by
    rw [said?, Bindings.find?_restrict]
    by_cases hkey : key = old <;> simp [hkey, said?]
  unfold settle
  split
  · next value hold hname =>
    have hvalue : value.isNull = false := by
      simpa using (Option.filter_eq_some_iff.1 hold).2
    rw [said?, Bindings.find?_put]
    by_cases hkey : key = f.name
    · simp [hkey, hne, hname, hold, hvalue]
    · rw [if_neg hkey, if_neg hkey, ← said?, hrest]
  · next hnone =>
    rw [hrest]
    by_cases hkey : key = f.name
    · subst hkey
      rw [if_pos rfl]
      cases hname : said? f.name claim with
      | some value => rfl
      | none =>
        cases hold : said? old claim with
        | some value => exact absurd hname (hnone value hold)
        | none => rfl
    · rw [if_neg hkey]

/-- **Settling an older spelling keeps what every field is looked up to.** -/
theorem lookup_settle (h : old ∈ f.aliases) (g : Field) (claim : List (String × Json)) :
    g.lookup (settle f old claim) = g.lookup claim := by
  have hne := name_ne_of_mem_aliases h f
  by_cases hfg : g = f
  · -- the two spellings of the field itself change places
    subst hfg
    rw [lookup_eq_head?, lookup_eq_head?, spellings, aliases_eq_singleton h]
    simp only [List.filterMap_cons, List.filterMap_nil, said?_settle hne, if_true, if_neg hne]
    cases said? g.name claim <;> cases said? old claim <;> rfl
  · refine lookup_congr_of_said? fun key hkey => ?_
    have hkeyOf := ofKey?_eq_some hkey
    have hold : key ≠ old := by
      rintro rfl
      exact hfg (Option.some.inj (hkeyOf.symm.trans (ofKey?_eq_some (List.mem_cons_of_mem _ h))))
    have hname : key ≠ f.name := by
      rintro rfl
      exact hfg (Option.some.inj (hkeyOf.symm.trans (ofKey?_eq_some List.mem_cons_self)))
    rw [said?_settle hne, if_neg hold, if_neg hname]

/-- So do any number of settled spellings. -/
theorem lookup_settleAll {moves : List (Field × String)}
    (h : ∀ move ∈ moves, move.2 ∈ move.1.aliases) (g : Field) (claim : List (String × Json)) :
    g.lookup (settleAll moves claim) = g.lookup claim := by
  induction moves generalizing claim with
  | nil => rfl
  | cons move moves ih =>
    obtain ⟨hmove, hmoves⟩ := List.forall_mem_cons.1 h
    have hstep : settleAll (move :: moves) claim =
        settleAll moves (settle move.1 move.2 claim) := rfl
    rw [hstep, ih hmoves, lookup_settle hmove]

/-- **A claim and its normal form look up every field alike.** -/
theorem lookup_normalize (f : Field) (claim : List (String × Json)) :
    f.lookup (normalize claim) = f.lookup claim := by
  rw [normalize, lookup_settleAll fun _ => mem_older.1, lookup_sifted]

/-! ## The normal form is normal -/

/-- What is left by sifting is no null and has a known key. -/
theorem known_of_find?_sifted {value : Json}
    (h : Bindings.find? key (sifted claim) = some value) :
    value.isNull = false ∧ ∃ f : Field, key ∈ f.spellings := by
  rw [find?_sifted] at h
  split at h
  · next hkey =>
    obtain ⟨f, hf⟩ := Option.isSome_iff_exists.1 hkey
    exact ⟨by simpa using (Option.filter_eq_some_iff.1 h).2, f, mem_spellings_of_ofKey? hf⟩
  · cases h

/-- What stands in a claim after a spelling was settled stood there before,
or was moved. -/
theorem find?_of_settle (hne : f.name ≠ old) {value : Json}
    (h : Bindings.find? key (settle f old claim) = some value) :
    key ≠ old ∧ (Bindings.find? key claim = some value ∨
      key = f.name ∧ Bindings.find? old claim = some value) := by
  have hrest : Bindings.find? key (Bindings.restrict (fun key => key ≠ old) claim) = some value →
      key ≠ old ∧ Bindings.find? key claim = some value := by
    intro hfound
    rw [Bindings.find?_restrict] at hfound
    simpa using hfound
  unfold settle at h
  split at h
  · next moved hold hname =>
    rw [Bindings.find?_put] at h
    split at h
    · next hkey =>
      cases h
      exact ⟨hkey ▸ hne, Or.inr ⟨hkey, (Option.filter_eq_some_iff.1 hold).1⟩⟩
    · exact ⟨(hrest h).1, Or.inl (hrest h).2⟩
  · exact ⟨(hrest h).1, Or.inl (hrest h).2⟩

/-- **Settled spellings are gone.** What is left stood in the claim before,
and under its own key if that is not a canonical one. -/
theorem find?_of_settleAll {moves : List (Field × String)} {value : Json}
    (hmoves : ∀ move ∈ moves, move.2 ∈ move.1.aliases)
    (h : Bindings.find? key (settleAll moves claim) = some value) :
    key ∉ moves.map Prod.snd ∧
      ∃ k, Bindings.find? k claim = some value ∧ (key = k ∨ ∃ f : Field, key = f.name) := by
  induction moves generalizing claim with
  | nil => exact ⟨List.not_mem_nil, key, h, Or.inl rfl⟩
  | cons move moves ih =>
    obtain ⟨hmove, hmoves⟩ := List.forall_mem_cons.1 hmoves
    obtain ⟨hlater, k, hk, hkey⟩ := ih hmoves h
    obtain ⟨hne, hfound⟩ := find?_of_settle (name_ne_of_mem_aliases hmove _) hk
    have hgone : key ≠ move.2 := by
      rcases hkey with rfl | ⟨f, rfl⟩
      · exact hne
      · exact name_ne_of_mem_aliases hmove f
    refine ⟨by simp [hgone, hlater], ?_⟩
    rcases hfound with hkept | ⟨rfl, hmoved⟩
    · exact ⟨k, hkept, hkey⟩
    · -- a canonical spelling is all that something is moved to
      exact ⟨move.2, hmoved, Or.inr (hkey.elim (fun h => ⟨move.1, h⟩) id)⟩

/-- **The normal form is normal.** -/
theorem isNormal_normalize (claim : List (String × Json)) : IsNormal (normalize claim) := by
  intro key value h
  obtain ⟨hgone, k, hk, hkey⟩ := find?_of_settleAll (fun _ => mem_older.1) h
  obtain ⟨hnull, f, hf⟩ := known_of_find?_sifted hk
  refine ⟨hnull, ?_⟩
  rcases hkey with rfl | hname
  · rcases List.mem_cons.1 hf with hname | hold
    · exact ⟨f, hname⟩
    · exact absurd (List.mem_map.2 ⟨(f, key), mem_older.2 hold, rfl⟩) hgone
  · exact hname

end Field

namespace Spec

/-- **A claim is read like its normal form**: to the same spec, or not at
all for the same fault. The spellings that the normal form moves are the four
older ones, each to its canonical one. -/
theorem ofClaim_normalize (claim : List (String × Json)) :
    Field.older.map (fun move => (move.2, move.1.name)) =
      [("location", "region"), ("envSuffix", "environmentSuffix"),
        ("backupRetentionPeriod", "backupRetentionDays"), ("extraTags", "tags")] ∧
    Field.IsNormal (Field.normalize claim) ∧
    ofClaim (.object (Field.normalize claim)) = ofClaim (.object claim) := by
  refine ⟨Field.older_eq, Field.isNormal_normalize claim, ?_⟩
  have hvalues : ∀ f : Field, f.value (Field.normalize claim) = f.value claim := fun f =>
    Field.value_of_lookup (Field.lookup_normalize f claim)
  have hfields : ofFields (Field.normalize claim) = ofFields claim := by
    rw [ofFields_eq_collect, ofFields_eq_collect, funext hvalues]
  rw [ofClaim, ofClaim, hfields]

/-- **Older spellings fill in for nulls and absent keys and give way to
values.** A claim with all four of them, a null and an unknown key is read to
the spec that its canonical spellings alone make. -/
theorem ofClaim_normalize_older :
    let claim : List (String × Json) :=
      [("backupRetentionDays", .null), ("backupRetentionPeriod", .nat 9), ("colour", .bool true),
        ("envSuffix", .text "prod"), ("extraTags", .object [("Team", .text "data")]),
        ("location", .text "eu-west-2"), ("region", .text "us-west-2")]
    let normal : List (String × Json) :=
      [("backupRetentionDays", .nat 9), ("environmentSuffix", .text "prod"),
        ("region", .text "us-west-2"), ("tags", .object [("Team", .text "data")])]
    Field.normalize claim = normal ∧ Field.IsNormal normal ∧
      ∃ spec, ofClaim (.object claim) = .ok spec ∧ ofClaim (.object normal) = .ok spec ∧
        spec.retentionDays = 9 ∧ spec.environmentSuffix = "prod" ∧ spec.region = "us-west-2" ∧
        spec.tags.get? "Team" = some "data" := by
  intro claim normal
  have hnormalize : Field.normalize claim = normal := rfl
  obtain ⟨-, hnormal, hclaim⟩ := ofClaim_normalize claim
  rw [hnormalize] at hnormal hclaim
  have hspec : ofClaim (.object normal) =
      .ok { Spec.ofRegion "us-west-2" with
        retentionDays := 9
        environmentSuffix := "prod"
        tags := Dict.ofList [("Team", "data")] } :=
    Fallible.toOption_eq_some_iff.1 (by decide +kernel)
  exact ⟨hnormalize, hnormal, _, hclaim.symm.trans hspec, hspec, rfl, rfl, rfl, by decide +kernel⟩

end Spec

end ClusterBlueprint
