import ClusterBlueprint.Graph.Node
/-!
# Json — where references stand

`Json.references` collects names while it walks a document. Without walking,
a document refers to a name where some object inside of it, at any depth,
has a field that does: a reference under a key that ends in `Ref`, or a list
with one under a key that ends in `Refs` (`Json.Refers`). The two agree
(`Json.mem_references`).
-/

namespace ClusterBlueprint

namespace Json

variable {doc value : Json} {key x : String}

/-- A document that stands in another one, at any depth. -/
inductive Inside (inner : Json) : Json → Prop where
  | refl : Inside inner inner
  | item {item : Json} {items : List Json} (hmem : item ∈ items) (h : Inside inner item) :
      Inside inner (.array items)
  | field {key : String} {value : Json} {fields : List (String × Json)}
      (hmem : (key, value) ∈ fields) (h : Inside inner value) : Inside inner (.object fields)

/-- A document is a reference to a name. -/
def Names (target : Json) (x : String) : Prop := target.get? "name" = some (.text x)

/-- A field refers to a name. -/
def FieldRefers (key : String) (value : Json) (x : String) : Prop :=
  ("Ref".toList <:+ key.toList ∧ value.Names x) ∨
    ("Refs".toList <:+ key.toList ∧ ∃ items, value = .array items ∧ ∃ item ∈ items, item.Names x)

/-- A document refers to a name. -/
def Refers (doc : Json) (x : String) : Prop :=
  ∃ fields, Inside (.object fields) doc ∧ ∃ field ∈ fields, FieldRefers field.1 field.2 x

/-! ## One field -/

theorem referredName?_eq_some_iff {target : Json} :
    target.referredName? = some x ↔ target.Names x := by
  unfold referredName? Names
  cases target.get? "name" with
  | none => simp
  | some found => cases found <;> simp [text?]

/-- A key that ends in `Refs` does not end in `Ref`. -/
theorem not_suffix_ref (h : "Refs".toList <:+ key.toList) : ¬ "Ref".toList <:+ key.toList := by
  intro href
  have hsuffix := List.suffix_of_suffix_length_le href h (by decide)
  exact absurd hsuffix (by decide)

/-- **A field contributes the names that it refers to.** -/
theorem mem_fieldReferences : x ∈ fieldReferences key value ↔ FieldRefers key value x := by
  have hvalue : x ∈ value.referredName?.toList ↔ value.Names x := by
    rw [Option.mem_toList, referredName?_eq_some_iff]
  have hitems : x ∈ (value.items?.getD []).filterMap referredName? ↔
      ∃ items, value = .array items ∧ ∃ item ∈ items, item.Names x := by
    simp only [List.mem_filterMap, referredName?_eq_some_iff]
    cases value <;> simp [items?]
  unfold fieldReferences FieldRefers
  simp only [List.isSuffixOf_iff_suffix]
  by_cases href : "Ref".toList <:+ key.toList
  · have hnot : ¬ "Refs".toList <:+ key.toList := fun h => not_suffix_ref h href
    simp only [href, hnot, if_true, hvalue, true_and, false_and, or_false]
  · by_cases hrefs : "Refs".toList <:+ key.toList
    · simp only [href, hrefs, if_false, if_true, hitems, false_and, true_and, false_or]
    · simp only [href, hrefs, if_false, List.not_mem_nil, false_and, or_false]

/-! ## The walk -/

theorem mem_referencesInItems {items : List Json} :
    x ∈ referencesInItems items ↔ ∃ item ∈ items, x ∈ item.references := by
  induction items with
  | nil => simp [referencesInItems]
  | cons item rest ih =>
    simp only [referencesInItems, List.mem_append, ih, List.mem_cons, exists_eq_or_imp]

theorem mem_referencesInFields {fields : List (String × Json)} :
    x ∈ referencesInFields fields ↔
      ∃ field ∈ fields, FieldRefers field.1 field.2 x ∨ x ∈ field.2.references := by
  induction fields with
  | nil => simp [referencesInFields]
  | cons field rest ih =>
    obtain ⟨key, value⟩ := field
    simp only [referencesInFields, List.mem_append, ih, mem_fieldReferences, List.mem_cons,
      exists_eq_or_imp]

/-- What the walk collects stands in the document. -/
theorem mem_references_of_refers (h : doc.Refers x) : x ∈ doc.references := by
  obtain ⟨fields, hinside, field, hmem, hrefers⟩ := h
  induction hinside with
  | refl =>
    rw [references, mem_referencesInFields]
    exact ⟨field, hmem, Or.inl hrefers⟩
  | item hitem _ ih =>
    rw [references, mem_referencesInItems]
    exact ⟨_, hitem, ih⟩
  | field hfield _ ih =>
    rw [references, mem_referencesInFields]
    exact ⟨_, hfield, Or.inr ih⟩

mutual

/-- What the walk collects is referred to. -/
theorem refers_of_mem_references {x : String} : ∀ doc : Json, x ∈ doc.references → doc.Refers x
  | .object fields, h => by
    obtain ⟨field, hmem, hfield | ⟨inner, hinside, hinner⟩⟩ := refers_of_mem_fields fields (by
      rwa [references] at h)
    · exact ⟨fields, .refl, field, hmem, hfield⟩
    · exact ⟨inner, .field hmem hinside, hinner⟩
  | .array items, h => by
    obtain ⟨item, hmem, inner, hinside, hinner⟩ := refers_of_mem_items items (by
      rwa [references] at h)
    exact ⟨inner, .item hmem hinside, hinner⟩
  | .null, h | .bool _, h | .integer _, h | .decimal _, h | .text _, h => by
    simp only [references, List.not_mem_nil] at h

theorem refers_of_mem_items {x : String} :
    ∀ items, x ∈ referencesInItems items → ∃ item ∈ items, item.Refers x
  | [], h => by simp only [referencesInItems, List.not_mem_nil] at h
  | item :: rest, h => by
    rw [referencesInItems, List.mem_append] at h
    rcases h with h | h
    · exact ⟨item, List.mem_cons_self, refers_of_mem_references item h⟩
    · obtain ⟨other, hmem, hrefers⟩ := refers_of_mem_items rest h
      exact ⟨other, List.mem_cons_of_mem _ hmem, hrefers⟩

theorem refers_of_mem_fields {x : String} :
    ∀ fields, x ∈ referencesInFields fields →
      ∃ field ∈ fields, FieldRefers field.1 field.2 x ∨ field.2.Refers x
  | [], h => by simp only [referencesInFields, List.not_mem_nil] at h
  | (key, value) :: rest, h => by
    rw [referencesInFields, List.mem_append, List.mem_append] at h
    rcases h with (h | h) | h
    · exact ⟨(key, value), List.mem_cons_self, Or.inl (mem_fieldReferences.1 h)⟩
    · exact ⟨(key, value), List.mem_cons_self, Or.inr (refers_of_mem_references value h)⟩
    · obtain ⟨other, hmem, hrefers⟩ := refers_of_mem_fields rest h
      exact ⟨other, List.mem_cons_of_mem _ hmem, hrefers⟩

end

/-- **The walk collects the names that the document refers to**, and no
others. -/
theorem mem_references : x ∈ doc.references ↔ doc.Refers x :=
  ⟨refers_of_mem_references doc, mem_references_of_refers⟩

end Json

end ClusterBlueprint
