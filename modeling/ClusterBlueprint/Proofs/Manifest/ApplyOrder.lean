import ClusterBlueprint.Proofs.Json.References
import ClusterBlueprint.Proofs.Manifest.Rendered
/-!
# Manifest — the order to apply manifests in

A document lists one manifest for each resource, in the order of the graph.
Whoever applies it sees only manifests: names in the metadata, the
annotation that lists the ids to wait for, and references in the
properties. `InApplyOrder` says that these fit together. The annotation
splits into the dependencies, everything that a resource waits for stands
before it, and every reference is the name of one earlier manifest, that of
a resource which is waited for. The graph knows this of its resources
(`Graph.Sound`), and a document keeps it (`Scheme.inApplyOrder`).
-/

namespace ClusterBlueprint

/-! ## Earlier resources -/

namespace Graph

variable {nodes : List Node} {n : Node} {i : Nat} {x : String}

/-- A resource is resolved by those that stand before its place. -/
theorem Sound.resolves_take (h : Sound nodes) (hn : nodes[i]? = some n) :
    Resolves (nodes.take i) n := by
  obtain ⟨hlt, rfl⟩ := List.getElem?_eq_some_iff.1 hn
  refine h.resolved _ _ (nodes.drop (i + 1)) ?_
  rw [← List.drop_eq_getElem_cons hlt, List.take_append_drop]

/-- What stands before a place has a place before it. -/
theorem exists_getElem?_of_mem_take {m : Node} (h : m ∈ nodes.take i) :
    ∃ j < i, nodes[j]? = some m := by
  obtain ⟨j, hj, rfl⟩ := List.mem_take_iff_getElem.1 h
  exact ⟨j, by omega, List.getElem?_eq_getElem (by omega)⟩

/-- **Dependencies stand before the resource.** -/
theorem Sound.exists_of_mem_dependsOn (h : Sound nodes) (hn : nodes[i]? = some n)
    (hx : x ∈ n.dependsOn) : ∃ j < i, ∃ m, nodes[j]? = some m ∧ m.id = x := by
  obtain ⟨m, hm, -, rfl⟩ := ((h.resolves_take hn).dependsOn x).1 hx
  obtain ⟨j, hj, hget⟩ := exists_getElem?_of_mem_take hm
  exact ⟨j, hj, m, hget, rfl⟩

/-- **A reference is the name of an earlier resource** that is depended
on. -/
theorem Sound.exists_of_mem_references (h : Sound nodes) (hn : nodes[i]? = some n)
    (hx : x ∈ n.references) :
    ∃ j < i, ∃ m, nodes[j]? = some m ∧ m.name = x ∧ m.id ∈ n.dependsOn := by
  have hresolves := h.resolves_take hn
  obtain ⟨m, hm, rfl⟩ := List.mem_map.1 (hresolves.known x hx)
  obtain ⟨j, hj, hget⟩ := exists_getElem?_of_mem_take hm
  exact ⟨j, hj, m, hget, rfl, (hresolves.dependsOn m.id).2 ⟨m, hm, hx, rfl⟩⟩

end Graph

/-! ## What an applier reads -/

namespace Json

/-- The annotation of a manifest that lists the ids to wait for. -/
def waitsFor? (manifest : Json) : Option Json :=
  (manifest.metadata? "annotations").bind fun annotations =>
    annotations.get? "crossplane.io/depends-on"

/-- The properties in a manifest: the parameters for the provider, or all of
an object that is none of the provider's. -/
def body (manifest : Json) : Json :=
  match manifest.get? "spec" with
  | some spec => (spec.get? "forProvider").getD .null
  | none => manifest

end Json

/-- A manifest at a place of a list, and the resource that it was made
from. -/
structure Placed (nodes : List Node) (manifests : List Json) (i : Nat) (n : Node)
    (manifest : Json) : Prop where
  kind : manifest.get? "kind" = some (.text n.kind.manifestName)
  name : manifest.metadata? "name" = some (.text n.name)
  /-- The annotation lists the dependencies, in ascending order. -/
  annotation : if n.dependsOn.isEmpty then manifest.waitsFor? = none
    else ∃ ids, manifest.waitsFor? = some (.text ids) ∧
      (ids.split ',').toList.map (·.copy) = n.dependsOn.toList
  ascending : n.dependsOn.toList.Pairwise (· < ·)
  /-- They stand before. -/
  earlier : ∀ id ∈ n.dependsOn, ∃ j < i, ∃ m, nodes[j]? = some m ∧ m.id = id
  /-- It refers to what the properties refer to. -/
  refers : ∀ x, manifest.body.Refers x ↔ n.properties.Refers x
  /-- A reference is the name of one manifest, which stands before, and whose
  resource is depended on. -/
  resolved : ∀ x, manifest.body.Refers x →
    ∃ j < i, (∃ m, nodes[j]? = some m ∧ m.id ∈ n.dependsOn) ∧
      ∀ l other, manifests[l]? = some other →
        (other.metadata? "name" = some (.text x) ↔ l = j)

/-- Manifests of a list of resources, in an order to apply them in. -/
structure InApplyOrder (nodes : List Node) (manifests : List Json) : Prop where
  length : manifests.length = nodes.length
  placed : ∀ (i : Nat) n manifest, nodes[i]? = some n → manifests[i]? = some manifest →
    Placed nodes manifests i n manifest

/-! ## Annotations -/

namespace Part

/-- Ids have no commas. -/
theorem comma_not_mem_id : ∀ p ∈ Extent.named, ',' ∉ p.id.toList := by decide +kernel

theorem comma_not_mem_memberId : ∀ i < 15, ',' ∉ (memberId i).toList := by decide +kernel

end Part

namespace Rendering

variable {r : Rendering} {n : Node} {manifest : Json}

/-- **The annotation splits into the ids that it was joined from.** -/
theorem annotation_of_describes (h : r.Describes n manifest)
    (hcomma : ∀ id ∈ n.dependsOn, ',' ∉ id.toList) :
    if n.dependsOn.isEmpty then manifest.waitsFor? = none
    else ∃ ids, manifest.waitsFor? = some (.text ids) ∧
      (ids.split ',').toList.map (·.copy) = n.dependsOn.toList := by
  rw [Json.waitsFor?, h.annotations]
  split
  · rfl
  · next hempty =>
    refine ⟨",".intercalate n.dependsOn.toList, rfl, ?_⟩
    have hne : n.dependsOn.toList ≠ [] := fun h => hempty (List.isEmpty_iff.2 h)
    have hsplit := String.toList_split_intercalate hcomma
    rw [if_neg hne] at hsplit
    exact hsplit

/-! ## Bodies -/

/-- The body of a resource's manifest is its properties. -/
theorem body_resource (r : Rendering) (n : Node) : (r.resource n).body = n.properties := rfl

/-- A secret refers to nothing, and neither do its properties. -/
theorem references_secret (hplain : n.PlainSecret) :
    (r.secret n).body.references = [] ∧ n.properties.references = [] := by
  obtain ⟨encoded, hproperties⟩ := hplain.properties
  have hsecret : r.secret n = .object
      [("apiVersion", .text n.kind.apiVersion),
        ("data", .object [(passwordKey, .text encoded)]),
        ("kind", .text n.kind.manifestName),
        ("metadata", .object
          [("labels", r.labels n.kind.component),
            ("name", .text n.name),
            ("namespace", .text r.objectNamespace)]),
        ("type", .text "Opaque")] := by
    rw [secret, hproperties]
    rfl
  have hdata : ∀ value, Json.fieldReferences "data" value = [] :=
    Json.fieldReferences_of_key (by decide) (by decide)
  have hmetadata : ∀ value, Json.fieldReferences "metadata" value = [] :=
    Json.fieldReferences_of_key (by decide) (by decide)
  have hlabels : ∀ value, Json.fieldReferences "labels" value = [] :=
    Json.fieldReferences_of_key (by decide) (by decide)
  have hbody : (r.secret n).body = r.secret n := by rw [hsecret]; rfl
  constructor
  · rw [hbody, hsecret]
    simp only [Json.references, Json.referencesInFields, Json.fieldReferences_text, hdata,
      hmetadata, hlabels, labels, List.append_nil]
  · rw [hproperties]
    simp only [Json.references, Json.referencesInFields, Json.fieldReferences_text, hdata,
      List.append_nil]

/-- **A manifest refers to what the properties of its resource refer to.** -/
theorem refers_body_node (hplain : n.kind = .secret → n.PlainSecret) {x : String} :
    (r.node n).body.Refers x ↔ n.properties.Refers x := by
  unfold node
  split
  · next hkind =>
    obtain ⟨hbody, hproperties⟩ := references_secret (r := r) (hplain hkind)
    rw [← Json.mem_references, ← Json.mem_references, hbody, hproperties]
  · rw [body_resource]

end Rendering

/-! ## The list -/

namespace Scheme

variable {s : Scheme} {password : Option String} {g : Graph}

/-- Ids of a drawn graph have no commas. -/
theorem comma_not_mem_id (hs : s.spec.Checked) (hg : g.nodes.map Node.draft = s.drafts password)
    {n : Node} (hn : n ∈ g.nodes) : ',' ∉ n.id.toList := by
  rcases draft_cases hg hn with ⟨p, hp, hpn⟩ | ⟨i, hi, hin⟩
  · rw [id_of_drawn hpn]
    exact Part.comma_not_mem_id p (mem_named_of_drawn hs hp)
  · have hfifteen := hs.instanceCount.2
    rw [id_of_member hin]
    exact Part.comma_not_mem_memberId i (by omega)

/-- **The manifests of a drawn graph are in an order to apply them in.** -/
theorem inApplyOrder (hs : s.spec.Checked) (hg : g.nodes.map Node.draft = s.drafts password)
    (r : Rendering) : InApplyOrder g.nodes (r.graph g) where
  length := List.length_map _
  placed := by
    intro i n manifest hn hmanifest
    have hsound := Graph.sound_nodes g
    have hmem : n ∈ g.nodes := List.mem_of_getElem? hn
    have hget : ∀ l other, (r.graph g)[l]? = some other →
        ∃ m, g.nodes[l]? = some m ∧ r.node m = other := fun l other hother => by
      rw [Rendering.graph, List.getElem?_map] at hother
      exact Option.map_eq_some_iff.1 hother
    obtain rfl : r.node n = manifest := by
      obtain ⟨m, hm, rfl⟩ := hget i manifest hmanifest
      rw [Option.some.inj (hn.symm.trans hm)]
    have hdescribes := describes_of_mem hg r hmem
    have hrefers : ∀ x, (r.node n).body.Refers x ↔ n.properties.Refers x := fun x =>
      Rendering.refers_body_node (plainSecret_of_mem hg hmem)
    have hearlier : ∀ id ∈ n.dependsOn, ∃ j < i, ∃ m, g.nodes[j]? = some m ∧ m.id = id :=
      fun id hid => hsound.exists_of_mem_dependsOn hn hid
    refine
      { kind := hdescribes.kind
        name := hdescribes.name
        annotation := Rendering.annotation_of_describes hdescribes fun id hid => ?_
        ascending := n.dependsOn.ascending
        earlier := hearlier
        refers := hrefers
        resolved := fun x hx => ?_ }
    · obtain ⟨j, -, m, hm, rfl⟩ := hearlier id hid
      exact comma_not_mem_id hs hg (List.mem_of_getElem? hm)
    · have href : x ∈ n.references := by
        rw [Node.references, TextSet.mem_ofList, Json.mem_references, ← hrefers]
        exact hx
      obtain ⟨j, hj, m, hm, rfl, hid⟩ := hsound.exists_of_mem_references hn href
      refine ⟨j, hj, ⟨m, hm, hid⟩, fun l other hother => ?_⟩
      obtain ⟨k, hk, rfl⟩ := hget l other hother
      rw [(describes_of_mem hg r (List.mem_of_getElem? hk)).name, Option.some.injEq,
        Json.text.injEq]
      -- names are distinct, so the name has one place
      have hlt : l < (g.nodes.map Node.name).length := by
        rw [List.length_map]
        exact (List.getElem?_eq_some_iff.1 hk).1
      rw [← List.getElem?_inj hlt hsound.names, List.getElem?_map, List.getElem?_map, hk, hm,
        Option.map_some, Option.map_some, Option.some.injEq]

end Scheme

namespace Blueprint

variable {σ : Type} {config : Config} {source : PasswordSource σ} {claim : Json} {state : σ}
  {b : Blueprint}

/-- **A document can be applied from its front to its end**, whatever the
claim asks for. -/
theorem ofClaim_inApplyOrder (h : (ofClaim config source claim state).1 = .ok b) :
    ∃ manifests, b.toJson.get? "resources" = some (.array manifests) ∧
      InApplyOrder b.graph.nodes manifests := by
  obtain ⟨spec, -, hspec, -⟩ := exists_scheme h
  obtain ⟨s, password, g, hs, -, -, hg, rfl⟩ := exists_drawn hspec h
  exact ⟨_, rfl, Scheme.inApplyOrder hs.spec hg _⟩

/-- The manifests of a claim that names its region are in order. -/
theorem ofClaim_inApplyOrder_region :
    let claim := Json.object [("region", .text "us-west-2")]
    let source := PasswordSource.constant "correct-horse-battery"
    ∃ (b : Blueprint) (manifests : List Json), (ofClaim {} source claim ()).1 = .ok b ∧
      b.toJson.get? "resources" = some (.array manifests) ∧
        InApplyOrder b.graph.nodes manifests := by
  intro claim source
  have hletters : Region.letters? "us-west-2" = some ['a', 'b', 'c', 'd'] := by decide +kernel
  obtain ⟨b, hb, -⟩ : ∃ b, (ofClaim {} source claim ()).1 = .ok b ∧
      b.connection.masterPassword = some "correct-horse-battery" :=
    exists_ofClaim_region rfl (by decide +kernel) (by decide) hletters (by decide) source ()
  obtain ⟨manifests, hget, horder⟩ := ofClaim_inApplyOrder hb
  exact ⟨b, manifests, hb, hget, horder⟩

end Blueprint

end ClusterBlueprint
