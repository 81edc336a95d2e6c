import ClusterBlueprint.Proofs.Graph.Runs
/-!
# Graph — graphs that grow

The dependencies of a resource are worked out from the names it refers to,
in the graph it stands in. So a draft could become one resource in one
graph and another in the next. It does not as long as the second graph has,
for every resource of the first, one of the same name and id
(`eq_of_draft_eq`): a list of drafts that is found again in the drafts of
such a graph is found again as the list of its resources
(`sublist_of_drafts`).
-/

namespace ClusterBlueprint

namespace Graph

variable {nodes nodes' : List Node}

/-- Every resource of the first list has one of its name and id in the
second. -/
def Keeps (nodes nodes' : List Node) : Prop :=
  ∀ m ∈ nodes, ∃ m' ∈ nodes', m'.name = m.name ∧ m'.id = m.id

/-- **A draft that both lists have is one resource**, its dependencies
included. -/
theorem eq_of_draft_eq (h : Sound nodes) (h' : Sound nodes') (hkeeps : Keeps nodes nodes')
    {n n' : Node} (hn : n ∈ nodes) (hn' : n' ∈ nodes') (hdraft : n.draft = n'.draft) : n = n' := by
  obtain ⟨id, kind, name, properties, details, dependsOn⟩ := n
  obtain ⟨id', kind', name', properties', details', dependsOn'⟩ := n'
  cases hdraft
  have hdepends : dependsOn = dependsOn' := by
    refine TextSet.ext_mem fun i => ?_
    have hfirst := h.mem_dependsOn hn (i := i)
    have hsecond := h'.mem_dependsOn hn' (i := i)
    rw [hfirst, hsecond]
    constructor
    · rintro ⟨m, hm, href, rfl⟩
      obtain ⟨m', hm', hname, hid⟩ := hkeeps m hm
      exact ⟨m', hm', hname ▸ href, hid⟩
    · rintro ⟨m', hm', href, rfl⟩
      obtain ⟨m, hm, hname⟩ := h.exists_name hn href
      obtain ⟨k, hk, hkname, hkid⟩ := hkeeps m hm
      -- what the first list keeps of the name is the only one in the second
      obtain rfl : k = m' := List.inj_on_of_nodup_map h'.names hk hm' (hkname.trans hname)
      exact ⟨m, hm, hname ▸ href, hkid.symm⟩
  rw [hdepends]

/-- Lists that a function makes equal are equal, if it makes no two of
their members equal. -/
theorem eq_of_map_eq {α β : Type} {f : α → β} {xs ys : List α} (hmap : xs.map f = ys.map f)
    (hinj : ∀ x ∈ xs, ∀ y ∈ ys, f x = f y → x = y) : xs = ys := by
  induction xs generalizing ys with
  | nil =>
    cases ys with
    | nil => rfl
    | cons y ys => cases hmap
  | cons x xs ih =>
    cases ys with
    | nil => cases hmap
    | cons y ys =>
      obtain ⟨hhead, htail⟩ := List.cons.inj hmap
      obtain rfl := hinj x (by simp) y (by simp) hhead
      rw [ih htail fun a ha b hb => hinj a (by simp [ha]) b (by simp [hb])]

/-- **Resources whose drafts are found again are found again.** -/
theorem sublist_of_drafts (h : Sound nodes) (h' : Sound nodes') (hkeeps : Keeps nodes nodes')
    {ns : List Node} (hns : ns ⊆ nodes)
    (hdrafts : (ns.map Node.draft).Sublist (nodes'.map Node.draft)) : ns.Sublist nodes' := by
  obtain ⟨ns', hsub, heq⟩ := List.sublist_map_iff.1 hdrafts
  have hsame : ns = ns' := eq_of_map_eq heq fun n hn n' hn' hdraft =>
    eq_of_draft_eq h h' hkeeps (hns hn) (hsub.subset hn') hdraft
  exact hsame ▸ hsub

end Graph

end ClusterBlueprint
