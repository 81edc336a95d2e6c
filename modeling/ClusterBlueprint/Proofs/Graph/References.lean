import ClusterBlueprint.Blueprint.Database
/-!
# Graph — what properties refer to

`Json.references` walks a whole document, but a reference only ever stands
under a key that ends in `Ref` or `Refs`. The lemmas here say what a field
contributes: texts, numbers, tags and lists of texts nothing, and a
reference its name. With them the references of a resource are read off
its properties field by field.
-/

namespace ClusterBlueprint

namespace Json

variable {key : String}

/-! ## Fields that refer to nothing -/

/-- A field refers to nothing when its value is neither a reference nor a
list. -/
theorem fieldReferences_of_value {value : Json} (hname : value.referredName? = none)
    (hitems : value.items? = none) (key : String) : fieldReferences key value = [] := by
  unfold fieldReferences
  rw [hname, hitems]
  split
  · rfl
  · split <;> rfl

@[simp] theorem fieldReferences_text (key s : String) : fieldReferences key (.text s) = [] :=
  fieldReferences_of_value rfl rfl key

@[simp] theorem fieldReferences_bool (key : String) (b : Bool) :
    fieldReferences key (.bool b) = [] :=
  fieldReferences_of_value rfl rfl key

@[simp] theorem fieldReferences_nat (key : String) (n : Nat) :
    fieldReferences key (.nat n) = [] :=
  fieldReferences_of_value rfl rfl key

@[simp] theorem fieldReferences_decimal (key : String) (x : Binary64) :
    fieldReferences key (.decimal x) = [] :=
  fieldReferences_of_value rfl rfl key

/-- A field refers to nothing by its key when the key is none of a
reference. -/
theorem fieldReferences_of_key (h : "Ref".toList.isSuffixOf key.toList = false)
    (hs : "Refs".toList.isSuffixOf key.toList = false) (value : Json) :
    fieldReferences key value = [] := by
  rw [fieldReferences, h, hs]
  rfl

/-! ## References -/

/-- A reference contributes its name. -/
theorem fieldReferences_ref (h : "Ref".toList.isSuffixOf key.toList = true) (name : String) :
    fieldReferences key (Draft.ref name) = [name] := by
  rw [fieldReferences, if_pos h]
  rfl

/-- A list of references contributes theirs. -/
theorem fieldReferences_refs (h : "Ref".toList.isSuffixOf key.toList = false)
    (hs : "Refs".toList.isSuffixOf key.toList = true) (names : List String) :
    fieldReferences key (.array (names.map Draft.ref)) = names := by
  have hnames : (names.map Draft.ref).filterMap referredName? = names := by
    rw [List.filterMap_map]
    exact List.filterMap_some
  rw [fieldReferences, h, hs]
  exact hnames

/-! ## What stands inside -/

@[simp] theorem references_text (s : String) : (text s).references = [] := by
  simp [references]

@[simp] theorem references_nat (n : Nat) : (nat n).references = [] := by
  simp [nat, references]

/-- A reference has no reference inside. -/
@[simp] theorem references_ref (name : String) : (Draft.ref name).references = [] := by
  simp [Draft.ref, references, referencesInFields]

@[simp] theorem references_texts (ss : List String) : (texts ss).references = [] := by
  rw [texts, references]
  induction ss with
  | nil => simp [referencesInItems]
  | cons s ss ih => rw [List.map_cons, referencesInItems, references_text, ih, List.nil_append]

@[simp] theorem referencesInItems_refs (names : List String) :
    referencesInItems (names.map Draft.ref) = [] := by
  induction names with
  | nil => simp [referencesInItems]
  | cons n names ih => rw [List.map_cons, referencesInItems, references_ref, ih, List.nil_append]

@[simp] theorem references_ofDict (d : Dict String) : (ofDict d).references = [] := by
  rw [ofDict, references]
  induction d.bindings with
  | nil => simp [referencesInFields]
  | cons b bs ih =>
    rw [List.map_cons, referencesInFields, fieldReferences_text, references_text, ih,
      List.nil_append, List.nil_append]

end Json

end ClusterBlueprint
