import ClusterBlueprint.Proofs.Json.References
/-!
# Json — the paths to references

A path goes into a document step by step, to a field of an object or to an
item of an array, and `At` says what stands at its end. The names that a
document refers to are the ones for which some path leads to an object with
a field that refers to them (`references_exact`). As texts of the document
they stand at the paths that end in `name` under a reference key
(`IsNamePath`), and a text at any other path contributes nothing.

The lists of fields are taken as they are. Where a key is repeated, only the
first of its bindings is read, so that a later `name` names nothing; in a
document whose objects have each key once (`Distinct`) the texts at those
paths are all collected.
-/

namespace ClusterBlueprint

namespace Json

variable {doc inner value : Json} {key x : String} {i : Nat}

/-- A step into a document. -/
inductive Step where
  | field (key : String)
  | item (index : Nat)

variable {path init rest : List Step}

/-- A document stands at the end of a path into another one. -/
inductive At (inner : Json) : List Step → Json → Prop where
  | here : At inner [] inner
  | item {i : Nat} {item : Json} {items : List Json} {path : List Step}
      (hitem : items[i]? = some item) (h : At inner path item) :
      At inner (.item i :: path) (.array items)
  | field {key : String} {value : Json} {fields : List (String × Json)} {path : List Step}
      (hfield : (key, value) ∈ fields) (h : At inner path value) :
      At inner (.field key :: path) (.object fields)

/-- A path to the name in a reference: to the name of an object under a key
that ends in `Ref`, or of one in an array under a key that ends in `Refs`. -/
def IsNamePath (path : List Step) : Prop :=
  ∃ key, ("Ref".toList <:+ key.toList ∧ [.field key, .field "name"] <:+ path) ∨
    ("Refs".toList <:+ key.toList ∧ ∃ i, [.field key, .item i, .field "name"] <:+ path)

/-- Every object in the document has each of its keys once. -/
def Distinct (doc : Json) : Prop :=
  ∀ fields, Inside (.object fields) doc → (fields.map Prod.fst).Nodup

@[simp] theorem distinct_text {s : String} : (text s).Distinct := by
  rintro fields ⟨⟩

@[simp] theorem distinct_array_iff {items : List Json} :
    (array items).Distinct ↔ ∀ item ∈ items, item.Distinct := by
  constructor
  · exact fun h item hmem fields hinside => h fields (.item hmem hinside)
  · rintro h fields (_ | ⟨hmem, hinside⟩)
    exact h _ hmem fields hinside

@[simp] theorem distinct_object_iff {fields : List (String × Json)} :
    (object fields).Distinct ↔
      (fields.map Prod.fst).Nodup ∧ ∀ field ∈ fields, field.2.Distinct := by
  constructor
  · exact fun h => ⟨h fields .refl, fun field hmem inner hinside => h inner (.field hmem hinside)⟩
  · rintro ⟨hkeys, hvalues⟩ inner (_ | _ | ⟨hmem, hinside⟩)
    · exact hkeys
    · exact hvalues _ hmem inner hinside

/-! ## What stands at a path -/

@[simp] theorem at_nil_iff : inner.At [] doc ↔ doc = inner := by
  constructor
  · rintro ⟨⟩
    rfl
  · rintro rfl
    exact .here

@[simp] theorem at_field_iff :
    inner.At (.field key :: rest) doc ↔
      ∃ fields, doc = .object fields ∧ ∃ value, (key, value) ∈ fields ∧ inner.At rest value := by
  constructor
  · rintro (_ | _ | ⟨hfield, h⟩)
    exact ⟨_, rfl, _, hfield, h⟩
  · rintro ⟨fields, rfl, value, hfield, h⟩
    exact .field hfield h

@[simp] theorem at_item_iff :
    inner.At (.item i :: rest) doc ↔
      ∃ items, doc = .array items ∧ ∃ item, items[i]? = some item ∧ inner.At rest item := by
  constructor
  · rintro (_ | ⟨hitem, h⟩)
    exact ⟨_, rfl, _, hitem, h⟩
  · rintro ⟨items, rfl, item, hitem, h⟩
    exact .item hitem h

/-- A path is followed in two parts. -/
theorem at_append_iff :
    inner.At (init ++ rest) doc ↔ ∃ middle : Json, middle.At init doc ∧ inner.At rest middle := by
  induction init generalizing doc with
  | nil => simp
  | cons step init ih =>
    cases step with
    | field key =>
      simp only [List.cons_append, at_field_iff, ih]
      constructor
      · rintro ⟨fields, hdoc, value, hfield, middle, hmiddle, h⟩
        exact ⟨middle, ⟨fields, hdoc, value, hfield, hmiddle⟩, h⟩
      · rintro ⟨middle, ⟨fields, hdoc, value, hfield, hmiddle⟩, h⟩
        exact ⟨fields, hdoc, value, hfield, middle, hmiddle, h⟩
    | item i =>
      simp only [List.cons_append, at_item_iff, ih]
      constructor
      · rintro ⟨items, hdoc, item, hitem, middle, hmiddle, h⟩
        exact ⟨middle, ⟨items, hdoc, item, hitem, hmiddle⟩, h⟩
      · rintro ⟨middle, ⟨items, hdoc, item, hitem, hmiddle⟩, h⟩
        exact ⟨items, hdoc, item, hitem, middle, hmiddle, h⟩

/-- **What is inside a document is what some path leads to.** -/
theorem inside_iff_exists_at : Inside inner doc ↔ ∃ path, inner.At path doc := by
  constructor
  · intro h
    induction h with
    | refl => exact ⟨[], .here⟩
    | item hmem _ ih =>
      obtain ⟨path, hpath⟩ := ih
      obtain ⟨i, hi⟩ := List.mem_iff_getElem?.1 hmem
      exact ⟨.item i :: path, .item hi hpath⟩
    | field hmem _ ih =>
      obtain ⟨path, hpath⟩ := ih
      exact ⟨.field _ :: path, .field hmem hpath⟩
  · rintro ⟨path, h⟩
    induction h with
    | here => exact .refl
    | item hitem _ ih => exact .item (List.mem_of_getElem? hitem) ih
    | field hfield _ ih => exact .field hfield ih

/-- What a document refers to, by paths. -/
theorem refers_iff_exists_at :
    doc.Refers x ↔
      ∃ path fields, (object fields).At path doc ∧
        ∃ key value, (key, value) ∈ fields ∧ FieldRefers key value x := by
  unfold Refers
  simp only [inside_iff_exists_at, Prod.exists]
  constructor
  · rintro ⟨fields, ⟨path, hpath⟩, hfield⟩
    exact ⟨path, fields, hpath, hfield⟩
  · rintro ⟨path, fields, hpath, hfield⟩
    exact ⟨fields, ⟨path, hpath⟩, hfield⟩

/-- A document refers to what is referred to anywhere inside of it. -/
theorem Refers.of_at (h : inner.Refers x) (hpath : inner.At path doc) : doc.Refers x := by
  obtain ⟨rest, fields, hrest, hfield⟩ := refers_iff_exists_at.1 h
  exact refers_iff_exists_at.2 ⟨path ++ rest, fields, at_append_iff.2 ⟨inner, hpath, hrest⟩, hfield⟩

/-! ## The texts of names -/

/-- The name of a reference stands in it as a text. -/
theorem Names.text_at (h : value.Names x) : (text x).At [.field "name"] value := by
  cases value with
  | object fields => exact .field (Bindings.mem_of_find? h) .here
  | _ => cases h

/-- And it is the name there where no key is repeated. -/
theorem Distinct.names (hdistinct : doc.Distinct) (hpath : value.At path doc)
    (h : (text x).At [.field "name"] value) : value.Names x := by
  simp only [at_field_iff, at_nil_iff] at h
  obtain ⟨fields, rfl, _, hname, rfl⟩ := h
  exact Bindings.find?_of_mem (hdistinct fields (inside_iff_exists_at.2 ⟨path, hpath⟩)) hname

/-- **Names that are referred to stand at name paths.** -/
theorem Refers.exists_namePath (h : doc.Refers x) :
    ∃ path, IsNamePath path ∧ (text x).At path doc := by
  obtain ⟨path, fields, hpath, key, value, hfield, hrefers⟩ := refers_iff_exists_at.1 h
  obtain ⟨hkey, hname⟩ | ⟨hkey, items, rfl, item, hitem, hname⟩ := hrefers
  · refine ⟨path ++ [.field key, .field "name"], ⟨key, Or.inl ⟨hkey, List.suffix_append _ _⟩⟩, ?_⟩
    exact at_append_iff.2 ⟨_, hpath, .field hfield hname.text_at⟩
  · obtain ⟨i, hi⟩ := List.mem_iff_getElem?.1 hitem
    refine ⟨path ++ [.field key, .item i, .field "name"],
      ⟨key, Or.inr ⟨hkey, i, List.suffix_append _ _⟩⟩, ?_⟩
    exact at_append_iff.2 ⟨_, hpath, .field hfield (.item hi hname.text_at)⟩

/-- **Texts at name paths are referred to** where no key is repeated. -/
theorem Distinct.refers (hdistinct : doc.Distinct) (hname : IsNamePath path)
    (hpath : (text x).At path doc) : doc.Refers x := by
  obtain ⟨key, ⟨hkey, init, rfl⟩ | ⟨hkey, i, init, rfl⟩⟩ := hname
  · obtain ⟨middle, hinit, hrest⟩ := at_append_iff.1 hpath
    obtain ⟨fields, rfl, value, hfield, hvalue⟩ := at_field_iff.1 hrest
    have hat : value.At (init ++ [.field key]) doc :=
      at_append_iff.2 ⟨_, hinit, .field hfield .here⟩
    exact refers_iff_exists_at.2
      ⟨init, fields, hinit, key, value, hfield, Or.inl ⟨hkey, hdistinct.names hat hvalue⟩⟩
  · obtain ⟨middle, hinit, hrest⟩ := at_append_iff.1 hpath
    obtain ⟨fields, rfl, value, hfield, hvalue⟩ := at_field_iff.1 hrest
    obtain ⟨items, rfl, item, hitem, htext⟩ := at_item_iff.1 hvalue
    have hat : item.At (init ++ [.field key, .item i]) doc :=
      at_append_iff.2 ⟨_, hinit, .field hfield (.item hitem .here)⟩
    exact refers_iff_exists_at.2 ⟨init, fields, hinit, key, _, hfield,
      Or.inr ⟨hkey, items, rfl, item, List.mem_of_getElem? hitem, hdistinct.names hat htext⟩⟩

/-! ## The set of references -/

/-- **The walk finds the references and nothing else.** The set that a
resource with these properties refers to has a name exactly if some path
leads to an object with a field that refers to it: under a key that ends in
`Ref` to the name of an object, or under a key that ends in `Refs` to the
names of the objects in an array. So what any document inside refers to is
found, whatever the path goes through; a name that is found stands at a name
path; and of a document without repeated keys all texts at name paths are
found. -/
theorem references_exact (doc : Json) :
    (∀ n : Node, n.properties = doc → n.references = TextSet.ofList doc.references) ∧
    (∀ x, x ∈ TextSet.ofList doc.references ↔
      ∃ path fields, (object fields).At path doc ∧
        ∃ key value, (key, value) ∈ fields ∧ FieldRefers key value x) ∧
    (∀ path (inner : Json), inner.At path doc →
      ∀ x ∈ TextSet.ofList inner.references, x ∈ TextSet.ofList doc.references) ∧
    (∀ x ∈ TextSet.ofList doc.references, ∃ path, IsNamePath path ∧ (text x).At path doc) ∧
    (doc.Distinct → ∀ path x, IsNamePath path → (text x).At path doc →
      x ∈ TextSet.ofList doc.references) := by
  have hset : ∀ (d : Json) (x : String), x ∈ TextSet.ofList d.references ↔ d.Refers x :=
    fun d x => TextSet.mem_ofList.trans mem_references
  simp only [hset]
  refine ⟨?_, fun x => refers_iff_exists_at, ?_, fun x => Refers.exists_namePath, ?_⟩
  · rintro n rfl
    rfl
  · exact fun path inner hpath x h => h.of_at hpath
  · exact fun hdistinct path x hname hpath => hdistinct.refers hname hpath

/-- A reference inside a reference, one in an array of arrays under a key that
is none of a reference, and a text that is no name. -/
theorem references_exact_nested :
    let subnets : Json := .object
      [("subnetIdRefs", .array [.text "plain", .object [("name", .text "subnet")]])]
    let role : Json := .object
      [("keyRef", .object [("name", .text "key")]), ("name", .text "role")]
    let doc : Json := .object
      [("roleRef", role), ("rules", .array [.array [subnets]]), ("title", .text "plain")]
    let keyPath : List Step := [.field "roleRef", .field "keyRef", .field "name"]
    let names := TextSet.ofList doc.references
    (doc.Distinct ∧ IsNamePath keyPath ∧ (text "key").At keyPath doc ∧ "key" ∈ names) ∧
      (subnets.At [.field "rules", .item 0, .item 0] doc ∧
        "subnet" ∈ TextSet.ofList subnets.references ∧ "subnet" ∈ names) ∧
      ("role" ∈ names ∧ ∃ path, IsNamePath path ∧ (text "role").At path doc) ∧
      "plain" ∉ names := by
  intro subnets role doc keyPath names
  obtain ⟨-, -, hinside, hstands, hfound⟩ := references_exact doc
  have hnames : doc.references = ["role", "key", "subnet"] := rfl
  have hsubnets : subnets.references = ["subnet"] := rfl
  have hdistinct : doc.Distinct := by
    simp [doc, role, subnets]
  have hkey : IsNamePath keyPath :=
    ⟨"keyRef", Or.inl ⟨by decide, [.field "roleRef"], rfl⟩⟩
  have hkeyAt : (text "key").At keyPath doc := by
    simp [keyPath, doc, role]
  have hsubnetsAt : subnets.At [.field "rules", .item 0, .item 0] doc := by
    simp [doc]
  have hsubnet : "subnet" ∈ TextSet.ofList subnets.references := by
    rw [hsubnets, TextSet.mem_ofList]
    exact List.mem_singleton_self _
  have hrole : "role" ∈ names := by
    rw [TextSet.mem_ofList, hnames]
    exact List.mem_cons_self
  refine ⟨⟨hdistinct, hkey, hkeyAt, hfound hdistinct keyPath "key" hkey hkeyAt⟩,
    ⟨hsubnetsAt, hsubnet, hinside _ subnets hsubnetsAt "subnet" hsubnet⟩,
    ⟨hrole, hstands "role" hrole⟩, ?_⟩
  rw [TextSet.mem_ofList, hnames]
  decide

end Json

end ClusterBlueprint
