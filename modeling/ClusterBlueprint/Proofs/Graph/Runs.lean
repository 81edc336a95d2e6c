import ClusterBlueprint.Graph.Assembly
import ClusterBlueprint.Proofs.Graph.Soundness
/-!
# Graph — runs of an assembly

An assembly takes drafts one after the other. One step adds the draft as a
resource, or refuses a reference to a name that is not there yet; what a
run of steps keeps is that the resources form a sound list. So a list of
drafts with ids and names of their own, each of which refers to earlier
ones only, always becomes a graph (`foldlM_add`), and whatever becomes one
has exactly the drafts as its resources (`draft_of_foldlM_add`).
-/

namespace ClusterBlueprint

/-- A resource without its dependencies. -/
def Node.draft (n : Node) : Draft := ⟨n.id, n.kind, n.name, n.properties, n.details⟩

namespace Draft

/-- The names that the properties refer to. -/
def references (d : Draft) : TextSet := TextSet.ofList d.properties.references

/-- Each draft of a list refers to known names and names of earlier drafts
only. -/
def Referring (known : List String) : List Draft → Prop
  | [] => True
  | d :: ds => (∀ x ∈ d.references, x ∈ known) ∧ Referring (known ++ [d.name]) ds

/-- Drafts that refer to known names and to names of drafts before them. -/
theorem referring_of_split {known : List String} {ds : List Draft}
    (h : ∀ earlier d later, ds = earlier ++ d :: later →
      ∀ x ∈ d.references, x ∈ known ++ earlier.map Draft.name) : Referring known ds := by
  induction ds generalizing known with
  | nil => trivial
  | cons d ds ih =>
    refine ⟨fun x hx => by simpa using h [] d ds rfl x hx, ih fun earlier e later heq x hx => ?_⟩
    have hmem := h (d :: earlier) e later (by rw [heq, List.cons_append]) x hx
    rwa [List.map_cons, List.append_cons] at hmem

/-- Drafts that refer to known names only. -/
theorem referring_of_forall {known : List String} {ds : List Draft}
    (h : ∀ d ∈ ds, ∀ x ∈ d.references, x ∈ known) : Referring known ds := by
  induction ds generalizing known with
  | nil => trivial
  | cons d ds ih =>
    refine ⟨h d (by simp), ih fun e he x hx => ?_⟩
    exact List.mem_append_left _ (h e (by simp [he]) x hx)

end Draft

namespace Assembly

open ClusterBlueprint.Graph

variable {a b : Assembly} {d : Draft} {ds : List Draft}

/-! ## One step -/

@[simp] theorem containsName_iff {x : String} :
    a.containsName x = true ↔ x ∈ a.nodes.map Node.name := by
  simp [containsName]

/-- A name has an id in an assembly when it was added. -/
theorem idOf?_isSome {x : String} : (a.idOf? x).isSome ↔ x ∈ a.nodes.map Node.name := by
  have h : (Graph.idOf? a.nodes.reverse x).isSome ↔ x ∈ a.nodes.reverse.map Node.name :=
    Graph.idOf?_isSome
  rw [List.map_reverse, List.mem_reverse] at h
  exact h

/-- While names are distinct, the last resource of a name is the only
one. -/
theorem idOf?_eq_some_iff (h : (a.nodes.map Node.name).Nodup) {x i : String} :
    a.idOf? x = some i ↔ ∃ m ∈ a.nodes, m.name = x ∧ m.id = i := by
  have hrev : (a.nodes.reverse.map Node.name).Nodup := by
    rw [List.map_reverse]
    exact List.nodup_reverse.2 h
  have hlook : Graph.idOf? a.nodes.reverse x = some i ↔
      ∃ m ∈ a.nodes.reverse, m.name = x ∧ m.id = i := Graph.idOf?_eq_some_iff hrev
  simp only [List.mem_reverse] at hlook
  exact hlook

/-- The dependencies of a draft, when each of its references was added. -/
theorem dependencies_eq_ok_iff {ids : TextSet} :
    a.dependencies d = .ok ids ↔
      (∀ x ∈ d.references, (a.idOf? x).isSome) ∧
        ∀ i, i ∈ ids ↔ ∃ x ∈ d.references, a.idOf? x = some i :=
  lookUp_eq_ok_iff

/-- Where names are distinct, dependencies that are worked out are the
resources referred to. -/
theorem dependencies_eq_ok_iff_resolves {n : Node} (hnames : (a.nodes.map Node.name).Nodup) :
    a.dependencies n.draft = .ok n.dependsOn ↔ Resolves a.nodes n := by
  have hreferences : n.draft.references = n.references := rfl
  have hreferred : ∀ i, (∃ x ∈ n.references, ∃ m ∈ a.nodes, m.name = x ∧ m.id = i) ↔
      ∃ m ∈ a.nodes, m.name ∈ n.references ∧ m.id = i := by
    intro i
    constructor
    · rintro ⟨_, hx, m, hm, rfl, rfl⟩
      exact ⟨m, hm, hx, rfl⟩
    · rintro ⟨m, hm, hx, rfl⟩
      exact ⟨_, hx, m, hm, rfl, rfl⟩
  rw [dependencies_eq_ok_iff, hreferences]
  simp only [idOf?_isSome, idOf?_eq_some_iff hnames, hreferred]
  exact ⟨fun h => ⟨h.1, h.2⟩, fun h => ⟨h.known, h.dependsOn⟩⟩

/-- A step that succeeds adds one resource at the end: the draft with its
dependencies. -/
theorem add_eq_ok_iff :
    a.add d = .ok b ↔
      ∃ n : Node, n.draft = d ∧ a.dependencies d = .ok n.dependsOn ∧ b = ⟨a.nodes ++ [n]⟩ := by
  unfold add
  rw [Fallible.bind_eq_ok]
  constructor
  · rintro ⟨ids, hids, h⟩
    cases h
    exact ⟨_, rfl, hids, rfl⟩
  · rintro ⟨n, rfl, hids, rfl⟩
    exact ⟨_, hids, rfl⟩

/-- **A draft is added when its references were**, and what was added
before resolves it. -/
theorem exists_add (hnames : (a.nodes.map Node.name).Nodup)
    (h : ∀ x ∈ d.references, x ∈ a.nodes.map Node.name) :
    ∃ n : Node, a.add d = .ok ⟨a.nodes ++ [n]⟩ ∧ n.draft = d ∧ Resolves a.nodes n := by
  have hsome : ∀ x ∈ d.references, (a.idOf? x).isSome := fun x hx => idOf?_isSome.2 (h x hx)
  obtain ⟨ids, hids⟩ := exists_lookUp hsome
  have hdeps : a.dependencies d = .ok ids := dependencies_eq_ok_iff.2 ⟨hsome, hids⟩
  let n : Node := ⟨d.id, d.kind, d.name, d.properties, d.details, ids⟩
  exact ⟨n, add_eq_ok_iff.2 ⟨n, rfl, hdeps, rfl⟩, rfl,
    (dependencies_eq_ok_iff_resolves hnames).1 hdeps⟩

/-! ## A run -/

/-- **A run keeps the resources sound**: drafts with ids and names of their
own that refer to earlier ones are all added. -/
theorem foldlM_add (hs : Sound a.nodes)
    (href : Draft.Referring (a.nodes.map Node.name) ds)
    (hids : (a.nodes.map Node.id ++ ds.map Draft.id).Nodup)
    (hnames : (a.nodes.map Node.name ++ ds.map Draft.name).Nodup) :
    ∃ b, ds.foldlM add a = .ok b ∧ Sound b.nodes ∧
      b.nodes.map Node.draft = a.nodes.map Node.draft ++ ds := by
  induction ds generalizing a with
  | nil => exact ⟨a, rfl, hs, by simp⟩
  | cons d ds ih =>
    obtain ⟨n, hadd, rfl, hres⟩ := exists_add hs.names href.1
    have hid : n.id ∉ a.nodes.map Node.id := fun h =>
      (List.nodup_append.1 hids).2.2 _ h n.id (by simp [Node.draft]) rfl
    have hname : n.name ∉ a.nodes.map Node.name := fun h =>
      (List.nodup_append.1 hnames).2.2 _ h n.name (by simp [Node.draft]) rfl
    obtain ⟨b, hb, hsound, hdrafts⟩ := ih (a := ⟨a.nodes ++ [n]⟩) (sound_append hs hid hname hres)
      (by simpa [Node.draft] using href.2) (by simpa [Node.draft] using hids)
      (by simpa [Node.draft] using hnames)
    exact ⟨b, by rw [List.foldlM_cons, hadd]; exact hb, hsound, by simp [hdrafts]⟩

/-- **A run adds exactly its drafts**, in their order. -/
theorem draft_of_foldlM_add (h : ds.foldlM add a = .ok b) :
    b.nodes.map Node.draft = a.nodes.map Node.draft ++ ds := by
  induction ds generalizing a with
  | nil => cases h; simp
  | cons d ds ih =>
    rw [List.foldlM_cons, Fallible.bind_eq_ok] at h
    obtain ⟨c, hc, h⟩ := h
    obtain ⟨n, rfl, -, rfl⟩ := add_eq_ok_iff.1 hc
    rw [ih h]
    simp

end Assembly

end ClusterBlueprint
