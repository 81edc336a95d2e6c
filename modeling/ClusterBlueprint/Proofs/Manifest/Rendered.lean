import ClusterBlueprint.Proofs.Blueprint.Resources
/-!
# Manifest — what a manifest says

Manifests are read by their fields: the API and the kind, the metadata with
the name, the namespace and the annotations, and the properties of the
resource. A secret is rendered by writing its properties over the object's
own fields, so what it says depends on which properties it has. In a graph
that was drawn it has its data and a type and depends on nothing
(`Scheme.plainSecret_of_mem`), and then every manifest says of its resource
what it should (`Rendering.describes_node`).
-/

namespace ClusterBlueprint

namespace Bindings

variable {α : Type}

/-- A key that is not written over keeps its value. -/
theorem find?_putAll_of_not_mem {k : String} {base new : List (String × α)}
    (h : k ∉ new.map Prod.fst) : find? k (putAll base new) = find? k base := by
  induction new generalizing base with
  | nil => rfl
  | cons b new ih =>
    obtain ⟨key, value⟩ := b
    rw [List.map_cons, List.mem_cons, not_or] at h
    have hwrite : putAll base ((key, value) :: new) = putAll (put key value base) new := rfl
    rw [hwrite, ih h.2, find?_put, if_neg h.1]

end Bindings

namespace Json

/-- A field of a manifest's metadata. -/
def metadata? (manifest : Json) (key : String) : Option Json :=
  (manifest.get? "metadata").bind fun metadata => metadata.get? key

end Json

/-- A secret as blueprints have it. -/
structure Node.PlainSecret (n : Node) : Prop where
  dependsOn : n.dependsOn.isEmpty = true
  properties : ∃ encoded, n.properties = .object
    [("data", .object [(passwordKey, .text encoded)]), ("type", .text "Opaque")]

namespace Rendering

variable {r : Rendering} {n : Node}

/-- What a manifest says of a resource. -/
structure Describes (r : Rendering) (n : Node) (manifest : Json) : Prop where
  apiVersion : manifest.get? "apiVersion" = some (.text n.kind.apiVersion)
  kind : manifest.get? "kind" = some (.text n.kind.manifestName)
  name : manifest.metadata? "name" = some (.text n.name)
  /-- Only secrets are put into a namespace. -/
  objectNamespace : manifest.metadata? "namespace" =
    if n.kind = .secret then some (.text r.objectNamespace) else none
  annotations : manifest.metadata? "annotations" =
    if n.dependsOn.isEmpty then none
    else some (.object
      [("crossplane.io/depends-on", .text (",".intercalate n.dependsOn.toList))])

/-- The manifest of a resource of the provider. -/
theorem describes_resource (r : Rendering) (hkind : n.kind ≠ .secret) :
    Describes r n (r.resource n) where
  apiVersion := rfl
  kind := rfl
  name := by
    cases hempty : n.dependsOn.isEmpty <;>
      simp [Json.metadata?, resource, annotations, hempty, Bindings.find?]
  objectNamespace := by
    cases hempty : n.dependsOn.isEmpty <;>
      simp [Json.metadata?, resource, annotations, hempty, Bindings.find?, hkind]
  annotations := by
    cases hempty : n.dependsOn.isEmpty <;>
      simp [Json.metadata?, resource, annotations, hempty, Bindings.find?]

/-- The manifest of a secret. -/
theorem describes_secret (r : Rendering) (hkind : n.kind = .secret) (hplain : n.PlainSecret) :
    Describes r n (r.secret n) := by
  obtain ⟨encoded, hproperties⟩ := hplain.properties
  -- none of the object's own fields is written over
  have hfield : ∀ key, key ∉ ["data", "type"] → (r.secret n).get? key = Bindings.find? key
      [("apiVersion", .text n.kind.apiVersion),
        ("kind", .text n.kind.manifestName),
        ("metadata", .object
          [("labels", r.labels n.kind.component),
            ("name", .text n.name),
            ("namespace", .text r.objectNamespace)])] := by
    intro key hkey
    rw [secret, Json.get?_object, hproperties]
    exact Bindings.find?_putAll_of_not_mem hkey
  exact
    { apiVersion := hfield "apiVersion" (by decide)
      kind := hfield "kind" (by decide)
      name := by rw [Json.metadata?, hfield "metadata" (by decide)]; rfl
      objectNamespace := by
        rw [Json.metadata?, hfield "metadata" (by decide), if_pos hkind]
        rfl
      annotations := by
        rw [Json.metadata?, hfield "metadata" (by decide), hplain.dependsOn]
        rfl }

/-- **A manifest describes its resource.** -/
theorem describes_node (r : Rendering) (hplain : n.kind = .secret → n.PlainSecret) :
    Describes r n (r.node n) := by
  unfold node
  split
  · next hkind => exact describes_secret r hkind (hplain hkind)
  · next hkind => exact describes_resource r hkind

end Rendering

namespace Scheme

variable {s : Scheme} {password : Option String} {g : Graph}

/-- **Secrets of a drawn graph are plain.** -/
theorem plainSecret_of_mem (hg : g.nodes.map Node.draft = s.drafts password) {n : Node}
    (hn : n ∈ g.nodes) (hkind : n.kind = .secret) : n.PlainSecret := by
  have hdraft : n.draft = s.drawn password .secret :=
    draft_of_kind hg (p := .secret) rfl hn hkind
  have hproperties : n.properties = (s.drawn password .secret).properties :=
    congrArg Draft.properties hdraft
  refine ⟨List.isEmpty_iff.2 (List.eq_nil_iff_forall_not_mem.2 fun i hi => ?_),
    Base64.encode (password.getD ""), hproperties⟩
  -- it refers to nothing, so there is nothing that it depends on
  obtain ⟨m, -, hmem, -⟩ := ((Graph.sound_nodes g).mem_dependsOn hn).1 hi
  rw [Node.references, TextSet.mem_ofList, hproperties, references_drawn] at hmem
  cases hmem

/-- **Every resource of a drawn graph is described by its manifest.** -/
theorem describes_of_mem (hg : g.nodes.map Node.draft = s.drafts password)
    (r : Rendering) {n : Node} (hn : n ∈ g.nodes) : r.Describes n (r.node n) :=
  r.describes_node (plainSecret_of_mem hg hn)

end Scheme

end ClusterBlueprint
