import ClusterBlueprint.Proofs.Blueprint.Kinds
import ClusterBlueprint.Proofs.Manifest.Rendered
/-!
# Manifest — the manifests of a kind

Whoever is handed a document finds resources by the kind that their
manifests spell, and reads what the provider is to be told of them. Kinds
are spelled differently, so the manifests of a kind are those of the graph's
resources of that kind (`Scheme.filter_isOf`).
-/

namespace ClusterBlueprint

namespace ResourceKind

/-- Kinds are told apart by how manifests spell them. -/
theorem eq_of_manifestName_eq {kind other : ResourceKind}
    (h : kind.manifestName = other.manifestName) : kind = other := by
  have hall : ∀ kind ∈ all, ∀ other ∈ all,
      kind.manifestName = other.manifestName → kind = other := by decide
  exact hall kind (mem_all kind) other (mem_all other) h

end ResourceKind

namespace Json

/-- Whether a manifest spells its kind so. -/
def isOf (kind : String) (manifest : Json) : Bool :=
  (manifest.get? "kind").bind text? = some kind

/-- What a manifest tells the provider under a key. -/
def parameter? (manifest : Json) (key : String) : Option Json :=
  ((manifest.get? "spec").bind fun spec => spec.get? "forProvider").bind fun parameters =>
    parameters.get? key

end Json

namespace Rendering

variable {r : Rendering} {n : Node} {manifest : Json}

/-- A manifest is of the kind of its resource. -/
theorem Describes.isOf_iff (h : r.Describes n manifest) (kind : ResourceKind) :
    manifest.isOf kind.manifestName = true ↔ n.kind = kind := by
  rw [Json.isOf, h.kind, decide_eq_true_iff]
  constructor
  · intro heq
    exact ResourceKind.eq_of_manifestName_eq (Option.some.inj heq)
  · rintro rfl
    rfl

/-- The provider is told the properties of a resource. -/
theorem parameter?_node (r : Rendering) (hkind : n.kind ≠ .secret) (key : String) :
    (r.node n).parameter? key = n.property? key := by
  rw [node, if_neg hkind]
  rfl

end Rendering

namespace Scheme

variable {s : Scheme} {password : Option String} {g : Graph}

/-- What the manifests of a scheme have in common. -/
def rendering (s : Scheme) : Rendering := Rendering.of s.spec s.config

/-- **The manifests of a kind** are those of the resources of that kind. -/
theorem filter_isOf (hg : g.nodes.map Node.draft = s.drafts password) (r : Rendering)
    (kind : ResourceKind) :
    (r.graph g).filter (Json.isOf kind.manifestName) = (g.ofKind kind).map r.node := by
  rw [Rendering.graph, List.filter_map, Graph.ofKind]
  refine congrArg (List.map r.node) (List.filter_congr fun n hn => ?_)
  rw [Function.comp_apply, Bool.eq_iff_iff, decide_eq_true_iff]
  exact (describes_of_mem hg r hn).isOf_iff kind

/-- What one resource's manifest satisfies is satisfied by a list of one. -/
theorem filter_graph_eq_singleton {r : Rendering} {accepts : Json → Bool} {n : Node}
    (hn : n ∈ g.nodes) (h : ∀ m ∈ g.nodes, accepts (r.node m) = true ↔ m = n) :
    (r.graph g).filter accepts = [r.node n] := by
  have hnodes : g.nodes.filter (accepts ∘ r.node) = [n] := Graph.filter_eq_singleton hn h
  rw [Rendering.graph, List.filter_map, hnodes, List.map_singleton]

/-- **The only manifest of its kind**, where a part has no others of its
kind. -/
theorem filter_isOf_eq_singleton (hg : g.nodes.map Node.draft = s.drafts password)
    (r : Rendering) {p : Part} (hsingle : p.extra = none) {n : Node} (hn : n ∈ g.nodes)
    (hdraft : n.draft = s.drawn password p) :
    (r.graph g).filter (Json.isOf p.kind.manifestName) = [r.node n] := by
  rw [filter_isOf hg, ofKind_eq_singleton hg hsingle hn hdraft, List.map_singleton]

end Scheme

end ClusterBlueprint
