import ClusterBlueprint.Proofs.Graph.References
import ClusterBlueprint.Proofs.Graph.Runs
/-!
# Graph — what the structure of a graph depends on

Whether a resource is added, what it depends on and whether the whole is a
graph is a matter of ids, names and references. The outline of a resource
has just these: every other property is dropped, and so are its kind and
what it publishes. An assembly of outlines goes as the assembly of the
resources does, faults included (`foldlM_add_outline`), and a list passes
the check exactly as its outlines do (`check_outline`). So two runs over
drafts with the same outlines end alike and agree on all dependencies.
-/

namespace ClusterBlueprint

namespace Json

/-- A document with the references of another and nothing else. -/
def outline (doc : Json) : Json := .object [("Refs", .array (doc.references.map Draft.ref))]

@[simp] theorem references_outline (doc : Json) : doc.outline.references = doc.references := by
  rw [outline, references, referencesInFields, referencesInFields, references,
    fieldReferences_refs (by decide) (by decide), referencesInItems_refs, List.append_nil,
    List.append_nil]

end Json

/-- The id, the name and the references of a draft. -/
def Draft.outline (d : Draft) : Draft := ⟨d.id, .vpc, d.name, d.properties.outline, Dict.empty⟩

namespace Node

/-- The id, the name, the references and the dependencies of a resource. -/
def outline (n : Node) : Node := ⟨n.id, .vpc, n.name, n.properties.outline, Dict.empty, n.dependsOn⟩

@[simp] theorem id_outline (n : Node) : n.outline.id = n.id := rfl

@[simp] theorem name_outline (n : Node) : n.outline.name = n.name := rfl

@[simp] theorem dependsOn_outline (n : Node) : n.outline.dependsOn = n.dependsOn := rfl

@[simp] theorem references_outline (n : Node) : n.outline.references = n.references := by
  rw [references, outline, Json.references_outline, references]

end Node

namespace Graph

variable {nodes left : List Node} {placed : List String}

/-! ## The check -/

@[simp] theorem idOf?_outline (nodes : List Node) (x : String) :
    idOf? (nodes.map Node.outline) x = idOf? nodes x := by
  rw [idOf?, List.find?_map, Option.map_map]
  rfl

@[simp] theorem referredIds_outline (nodes : List Node) (n : Node) :
    referredIds (nodes.map Node.outline) n.outline = referredIds nodes n := by
  simp only [referredIds, Node.references_outline, idOf?_outline, Node.id_outline]

@[simp] theorem checkDependencies_outline (nodes : List Node) (earlier : List String) (n : Node) :
    checkDependencies (nodes.map Node.outline) earlier n.outline =
      checkDependencies nodes earlier n := by
  rw [checkDependencies, referredIds_outline]
  rfl

theorem checkDistinct_outline (ids names : List String) (nodes : List Node) :
    checkDistinct ids names (nodes.map Node.outline) = checkDistinct ids names nodes := by
  induction nodes generalizing ids names with
  | nil => rfl
  | cons n rest ih =>
    simp only [List.map_cons, checkDistinct, Node.id_outline, Node.name_outline, ih]

theorem checkAll_outline (nodes : List Node) (earlier : List String) (rest : List Node) :
    checkAll (nodes.map Node.outline) earlier (rest.map Node.outline) =
      checkAll nodes earlier rest := by
  induction rest generalizing earlier with
  | nil => rfl
  | cons n rest ih =>
    simp only [List.map_cons, checkAll, checkDependencies_outline, Node.id_outline, ih]

/-! ## The order -/

/-- An item is taken out of the images of a list as out of the list. -/
theorem extractFirst_map {α β : Type} (f : α → β) (p : β → Bool) (xs : List α) :
    extractFirst p (xs.map f) =
      (extractFirst (p ∘ f) xs).map fun (x, rest) => (f x, rest.map f) := by
  induction xs with
  | nil => rfl
  | cons x xs ih =>
    rw [List.map_cons, extractFirst, extractFirst, ih]
    by_cases hx : p (f x) = true
    · simp [hx]
    · simp [hx, Function.comp_def]

theorem placeAll_outline (placed : List String) (left : List Node) :
    placeAll placed (left.map Node.outline) = placeAll placed left := by
  induction hlength : left.length generalizing placed left with
  | zero =>
    rw [List.length_eq_zero_iff.1 hlength]
    rfl
  | succ k ih =>
    have hready : isReady placed ∘ Node.outline = isReady placed := rfl
    rw [placeAll_eq, placeAll_eq placed left, extractFirst_map, hready]
    cases hfirst : extractFirst (isReady placed) left with
    | none => simp
    | some found =>
      obtain ⟨n, rest⟩ := found
      have hrest : rest.length = k := by
        have := length_of_extractFirst hfirst
        omega
      simp only [Option.map_some, Node.id_outline, ih _ rest hrest]

theorem orderOf_outline (nodes : List Node) : orderOf (nodes.map Node.outline) = orderOf nodes := by
  have hids : (nodes.map Node.outline).map Node.id = nodes.map Node.id := by
    rw [List.map_map]
    rfl
  have hmissing : (nodes.map Node.outline).findSome? (missingOf (nodes.map Node.id)) =
      nodes.findSome? (missingOf (nodes.map Node.id)) := by
    rw [List.findSome?_map]
    rfl
  rw [orderOf, hids, hmissing, placeAll_outline, orderOf]

/-- **A list passes the check as its outlines do**, and fails it with the
same fault. -/
theorem check_outline (nodes : List Node) : check (nodes.map Node.outline) = check nodes := by
  rw [check, checkDistinct_outline, checkAll_outline, orderOf_outline, check]

/-- The list of a graph that is made is the one that it is made of. -/
theorem map_ofNodes (nodes : List Node) :
    (ofNodes nodes).map Graph.nodes = (check nodes).map fun _ => nodes := by
  unfold ofNodes
  split
  · next h => exact (congrArg (Except.map fun _ => nodes) h).symm
  · next h => exact (congrArg (Except.map fun _ => nodes) h).symm

end Graph

namespace Assembly

variable {a : Assembly} {d : Draft} {ds : List Draft}

/-! ## Runs -/

/-- The outlines of what was added. -/
def outline (a : Assembly) : Assembly := ⟨a.nodes.map Node.outline⟩

@[simp] theorem containsName_outline (a : Assembly) (x : String) :
    a.outline.containsName x = a.containsName x := by
  rw [containsName, outline, List.any_map]
  rfl

@[simp] theorem idOf?_outline (a : Assembly) (x : String) : a.outline.idOf? x = a.idOf? x := by
  rw [idOf?, outline, ← List.map_reverse, List.find?_map, Option.map_map]
  rfl

@[simp] theorem dependencies_outline (a : Assembly) (d : Draft) :
    a.outline.dependencies d.outline = a.dependencies d := by
  simp only [dependencies, idOf?_outline, Draft.outline, Json.references_outline]

/-- **A step adds the outline of what it adds.** -/
theorem add_outline (a : Assembly) (d : Draft) :
    a.outline.add d.outline = (a.add d).map outline := by
  rw [add, dependencies_outline, add]
  cases a.dependencies d with
  | error cause => rfl
  | ok ids => simp [outline, Draft.outline, Node.outline, Except.map, pure, Except.pure]

/-- **A run over outlines is the outline of the run**, for any step that
adds outlines of what it adds. -/
theorem foldlM_outline {step : Assembly → Draft → Except Fault Assembly}
    (hstep : ∀ a d, step a.outline d.outline = (step a d).map outline) (a : Assembly)
    (ds : List Draft) :
    (ds.map Draft.outline).foldlM step a.outline = (ds.foldlM step a).map outline := by
  induction ds generalizing a with
  | nil => rfl
  | cons d ds ih =>
    rw [List.map_cons, List.foldlM_cons, List.foldlM_cons, hstep]
    cases step a d with
    | error cause => rfl
    | ok b => exact ih b

/-- What a run ends with becomes a graph as its outlines do. -/
theorem finish_outline (a : Assembly) :
    a.outline.finish.map Graph.nodes =
      a.finish.map fun g => g.nodes.map Node.outline := by
  have hfinish : a.finish.map (fun g => g.nodes.map Node.outline) =
      (a.finish.map Graph.nodes).map (List.map Node.outline) := by
    cases a.finish <;> rfl
  rw [hfinish, finish, finish, Graph.map_ofNodes, Graph.map_ofNodes, outline, Graph.check_outline]
  cases Graph.check a.nodes <;> rfl

end Assembly

end ClusterBlueprint
