import ClusterBlueprint.Proofs.Graph.Soundness
/-!
# Graph — what becomes of a list of resources

A list of resources becomes a graph if it is sound. If it is not, the check
names a fault, and it is one that the list has (`ofNodes_outcome`). `HasFault`
says what each fault means. That the dependencies run in a circle is not
among them: the order is looked for after every dependency was found before
its resource, and then there is one.

To find a dependency before a resource is to look its place up and to
compare the two. A look-up may find no place, and then a walk by places has
no answer. It always has one (`checkByPlace?_eq`): the ids that are looked
up are those that names were resolved to just before.
-/

namespace ClusterBlueprint

namespace Graph

variable {nodes earlier rest : List Node} {n : Node} {cause : Fault}

/-! ## The faults that are found -/

/-- What a fault says of a list of resources. -/
def HasFault (nodes : List Node) : GraphFault → Prop
  | .repeatedId id => 2 ≤ (nodes.map Node.id).count id
  | .repeatedName name => 2 ≤ (nodes.map Node.name).count name
  | .unknownName id name =>
    ∃ n ∈ nodes, n.id = id ∧ name ∈ n.references ∧ name ∉ nodes.map Node.name
  | .otherDependencies id listed referenced =>
    ∃ n ∈ nodes, n.id = id ∧ n.dependsOn = listed ∧ referenced ≠ listed ∧
      ∀ i, i ∈ referenced ↔ ∃ m ∈ nodes, m.name ∈ n.references ∧ m.id = i
  | .laterDependency id dependency =>
    ∃ earlier n later, nodes = earlier ++ n :: later ∧ n.id = id ∧
      dependency ∈ n.dependsOn ∧ dependency ∉ earlier.map Node.id
  | _ => False

/-- A sound list has no fault. -/
theorem Sound.not_hasFault (h : Sound nodes) (why : GraphFault) : ¬ HasFault nodes why := by
  intro hfault
  cases why with
  | repeatedId id =>
    exact absurd (List.nodup_iff_count_le_one.1 h.ids id) (Nat.not_le.2 hfault)
  | repeatedName name =>
    exact absurd (List.nodup_iff_count_le_one.1 h.names name) (Nat.not_le.2 hfault)
  | unknownName id name =>
    obtain ⟨n, hn, -, href, hname⟩ := hfault
    obtain ⟨m, hm, rfl⟩ := h.exists_name hn href
    exact hname (List.mem_map_of_mem hm)
  | otherDependencies id listed referenced =>
    obtain ⟨n, hn, -, rfl, hne, hreferenced⟩ := hfault
    exact hne (TextSet.ext_mem fun i => (hreferenced i).trans (h.mem_dependsOn hn).symm)
  | laterDependency id dependency =>
    obtain ⟨earlier, n, later, heq, -, hdep, hlate⟩ := hfault
    obtain ⟨m, hm, -, rfl⟩ := ((h.resolved earlier n later heq).dependsOn _).1 hdep
    exact hlate (List.mem_map_of_mem hm)
  | _ => exact hfault

/-- The walk for repeats finds an id or a name that is there twice. -/
theorem hasFault_of_checkDistinct {ids names : List String}
    (h : checkDistinct ids names nodes = .error cause) :
    (∃ id, cause = .graph (.repeatedId id) ∧ 2 ≤ (ids ++ nodes.map Node.id).count id) ∨
      ∃ name, cause = .graph (.repeatedName name) ∧
        2 ≤ (names ++ nodes.map Node.name).count name := by
  -- what was walked over counts like what is still ahead
  induction nodes generalizing ids names with
  | nil => cases h
  | cons n rest ih =>
    rw [checkDistinct] at h
    split at h
    · next hid =>
      cases h
      refine Or.inl ⟨n.id, rfl, ?_⟩
      have hpos := List.count_pos_iff.2 hid
      simp only [List.count_append, List.map_cons, List.count_cons_self]
      omega
    split at h
    · next hname =>
      cases h
      refine Or.inr ⟨n.name, rfl, ?_⟩
      have hpos := List.count_pos_iff.2 hname
      simp only [List.count_append, List.map_cons, List.count_cons_self]
      omega
    · rcases ih h with ⟨id, hcause, hcount⟩ | ⟨name, hcause, hcount⟩
      · exact Or.inl ⟨id, hcause, List.perm_middle.count_eq id ▸ hcount⟩
      · exact Or.inr ⟨name, hcause, List.perm_middle.count_eq name ▸ hcount⟩

/-- The walk over all resources stops at one of them. -/
theorem exists_checkDependencies_of_checkAll {seen : List String}
    (h : checkAll nodes seen rest = .error cause) :
    ∃ earlier n later, rest = earlier ++ n :: later ∧
      checkDependencies nodes ((earlier.map Node.id).reverse ++ seen) n = .error cause := by
  induction rest generalizing seen with
  | nil => cases h
  | cons m rest ih =>
    rw [checkAll] at h
    rcases Fallible.bind_eq_error.1 h with hm | ⟨_, -, hrest⟩
    · exact ⟨[], m, rest, rfl, hm⟩
    · obtain ⟨earlier, n, later, rfl, hn⟩ := ih hrest
      exact ⟨m :: earlier, n, later, rfl, by simpa using hn⟩

/-- References are looked up until one of them names no resource. -/
theorem exists_unknown_of_referredIds (h : referredIds nodes n = .error cause) :
    ∃ name ∈ n.references, name ∉ nodes.map Node.name ∧
      cause = .graph (.unknownName n.id name) := by
  rcases Fallible.bind_eq_error.1 h with hmap | ⟨_, -, hpure⟩
  · obtain ⟨name, hname, hlook⟩ := Fallible.exists_of_mapM_eq_error hmap
    cases hid : idOf? nodes name with
    | some id => simp [hid] at hlook
    | none =>
      rw [hid] at hlook
      refine ⟨name, hname, fun hmem => ?_, (Except.error.inj hlook).symm⟩
      rw [← idOf?_isSome, hid] at hmem
      cases hmem
  · cases hpure

/-- A resource is refused for what it refers to or depends on. -/
theorem hasFault_of_checkDependencies {later : List Node}
    (hnames : ((earlier ++ n :: later).map Node.name).Nodup)
    (h : checkDependencies (earlier ++ n :: later) (earlier.map Node.id).reverse n =
      .error cause) :
    ∃ why, cause = .graph why ∧ HasFault (earlier ++ n :: later) why := by
  have hn : n ∈ earlier ++ n :: later := by simp
  unfold checkDependencies at h
  rcases Fallible.bind_eq_error.1 h with hunknown | ⟨referred, href, h⟩
  · obtain ⟨name, hname, hnone, rfl⟩ := exists_unknown_of_referredIds hunknown
    exact ⟨_, rfl, n, hn, rfl, hname, hnone⟩
  have hreferred := (referredIds_eq_ok_iff.1 href).2
  simp only [idOf?_eq_some_iff hnames] at hreferred
  by_cases hne : referred = n.dependsOn
  · rw [if_neg (not_not.2 hne)] at h
    cases hlate : n.dependsOn.toList.find? fun d => d ∉ (earlier.map Node.id).reverse with
    | none =>
      rw [hlate] at h
      cases h
    | some d =>
      rw [hlate] at h
      obtain rfl := Except.error.inj h
      have hd := List.find?_some hlate
      exact ⟨_, rfl, earlier, n, later, rfl, rfl, List.mem_of_find?_eq_some hlate,
        by simpa using hd⟩
  · rw [if_pos hne] at h
    obtain rfl := Except.error.inj h
    refine ⟨_, rfl, n, hn, rfl, rfl, hne, fun i => (hreferred i).trans ⟨?_, ?_⟩⟩
    · rintro ⟨_, hx, m, hm, rfl, rfl⟩
      exact ⟨m, hm, hx, rfl⟩
    · rintro ⟨m, hm, hx, rfl⟩
      exact ⟨_, hx, m, hm, rfl, rfl⟩

/-- **What the check finds wrong with a list is wrong with it.** -/
theorem hasFault_of_check (h : check nodes = .error cause) :
    ∃ why, cause = .graph why ∧ HasFault nodes why := by
  have hfail := h
  unfold check at hfail
  rcases Fallible.bind_eq_error.1 hfail with hdistinct | ⟨_, hdistinct, hfail⟩
  · rcases hasFault_of_checkDistinct hdistinct with ⟨id, rfl, hid⟩ | ⟨name, rfl, hname⟩
    · exact ⟨_, rfl, hid⟩
    · exact ⟨_, rfl, hname⟩
  rcases Fallible.bind_eq_error.1 hfail with hall | ⟨_, hall, -⟩
  · obtain ⟨earlier, n, later, rfl, hn⟩ := exists_checkDependencies_of_checkAll hall
    rw [List.append_nil] at hn
    exact hasFault_of_checkDependencies (checkDistinct_eq_ok_iff.1 hdistinct).2.1 hn
  · -- a list that is sound has an order
    rw [check_eq_ok_iff.2 (sound_of_walks hdistinct hall)] at h
    cases h

/-! ## Places -/

/-- The place of the resource of an id. -/
def place? (nodes : List Node) (id : String) : Option Nat := nodes.findIdx? fun n => n.id = id

/-- The first of some ids whose place is not before the index. There is no
answer when an id that is looked up has no place. -/
def firstLate? (nodes : List Node) (index : Nat) : List String → Option (Option String)
  | [] => some none
  | id :: ids => do
    let place ← place? nodes id
    if index ≤ place then some (some id) else firstLate? nodes index ids

/-- Checks the dependencies of the resource at an index. -/
def checkAt? (nodes : List Node) (index : Nat) (n : Node) : Option (Except Fault Unit) :=
  match referredIds nodes n with
  | .error cause => some (.error cause)
  | .ok referred =>
    if referred ≠ n.dependsOn then
      some (.error (.graph (.otherDependencies n.id n.dependsOn referred)))
    else (firstLate? nodes index n.dependsOn.toList).map fun
      | some d => .error (.graph (.laterDependency n.id d))
      | none => .ok ()

/-- Checks the resources from an index on. -/
def checkFrom? (nodes : List Node) : (index : Nat) → List Node → Option (Except Fault Unit)
  | _, [] => some (.ok ())
  | index, n :: rest => do
    match ← checkAt? nodes index n with
    | .error cause => some (.error cause)
    | .ok () => checkFrom? nodes (index + 1) rest

/-- The check by places. -/
def checkByPlace? (nodes : List Node) : Option (Except Fault Unit) :=
  match checkDistinct [] [] nodes with
  | .error cause => some (.error cause)
  | .ok () => do
    match ← checkFrom? nodes 0 nodes with
    | .error cause => some (.error cause)
    | .ok () => some ((orderOf nodes).map fun _ => ())

theorem place?_eq_none_iff {x : String} : place? nodes x = none ↔ x ∉ nodes.map Node.id := by
  simp [place?, List.findIdx?_eq_none_iff]

theorem getElem?_of_place? {x : String} {d : Nat} (h : place? nodes x = some d) :
    ∃ m, nodes[d]? = some m ∧ m.id = x := by
  obtain ⟨hlt, hkey, -⟩ := List.findIdx?_eq_some_iff_getElem.1 h
  exact ⟨nodes[d], List.getElem?_eq_getElem hlt, of_decide_eq_true hkey⟩

/-- An id of the list has a place, and it is before the rest of the list if
the id is. -/
theorem exists_place? {id : String} (h : id ∈ (earlier ++ rest).map Node.id) :
    ∃ place, place? (earlier ++ rest) id = some place ∧
      (earlier.length ≤ place ↔ id ∉ earlier.map Node.id) := by
  rw [place?, List.findIdx?_append]
  cases hfront : earlier.findIdx? fun n => n.id = id with
  | some place =>
    obtain ⟨hlt, hkey, -⟩ := List.findIdx?_eq_some_iff_getElem.1 hfront
    refine ⟨place, rfl, iff_of_false (Nat.not_le.2 hlt) (not_not.2 ?_)⟩
    exact List.mem_map.2 ⟨_, List.getElem_mem hlt, of_decide_eq_true hkey⟩
  | none =>
    have hnot : id ∉ earlier.map Node.id := by
      rintro hmem
      obtain ⟨m, hm, rfl⟩ := List.mem_map.1 hmem
      exact absurd (List.findIdx?_eq_none_iff.1 hfront m hm) (by simp)
    rw [List.map_append, List.mem_append] at h
    obtain ⟨m, hm, rfl⟩ := List.mem_map.1 (h.resolve_left hnot)
    have hsome : (rest.findIdx? fun n => n.id = m.id).isSome := by
      rw [List.findIdx?_isSome, List.any_eq_true]
      exact ⟨m, hm, decide_eq_true rfl⟩
    obtain ⟨place, hplace⟩ := Option.isSome_iff_exists.1 hsome
    exact ⟨place + earlier.length, by rw [hplace]; rfl, iff_of_true (Nat.le_add_left _ _) hnot⟩

/-- Places tell what stands before the rest of the list. -/
theorem firstLate?_eq {ids : List String} (h : ∀ id ∈ ids, id ∈ (earlier ++ rest).map Node.id) :
    firstLate? (earlier ++ rest) earlier.length ids =
      some (ids.find? fun id => id ∉ (earlier.map Node.id).reverse) := by
  induction ids with
  | nil => rfl
  | cons id ids ih =>
    obtain ⟨hid, hids⟩ := List.forall_mem_cons.1 h
    obtain ⟨place, hplace, hlate⟩ := exists_place? hid
    rw [firstLate?, hplace, List.find?_cons]
    by_cases hmem : id ∈ earlier.map Node.id
    · have hlt : ¬ earlier.length ≤ place := fun hle => hlate.1 hle hmem
      simp [hlt, hmem, ih hids]
    · simp [hlate.2 hmem, hmem]

/-- The ids that names are resolved to are ids of the list. -/
theorem mem_ids_of_referredIds {ids : TextSet} (h : referredIds nodes n = .ok ids) :
    ∀ i ∈ ids, i ∈ nodes.map Node.id := by
  intro i hi
  obtain ⟨x, -, hx⟩ := ((referredIds_eq_ok_iff.1 h).2 i).1 hi
  obtain ⟨m, hm, rfl⟩ := Option.map_eq_some_iff.1 hx
  exact List.mem_map_of_mem (List.mem_of_find?_eq_some hm)

/-- The check of a resource by places. -/
theorem checkAt?_eq (earlier rest : List Node) (n : Node) :
    checkAt? (earlier ++ rest) earlier.length n =
      some (checkDependencies (earlier ++ rest) (earlier.map Node.id).reverse n) := by
  unfold checkAt? checkDependencies
  cases href : referredIds (earlier ++ rest) n with
  | error cause => rfl
  | ok referred =>
    by_cases hne : referred = n.dependsOn
    · subst hne
      simp only [Fallible.ok_bind]
      rw [if_neg (not_not.2 rfl), if_neg (not_not.2 rfl),
        firstLate?_eq (mem_ids_of_referredIds href)]
      cases n.dependsOn.toList.find? fun d => d ∉ (earlier.map Node.id).reverse <;> rfl
    · simp only [Fallible.ok_bind]
      rw [if_pos hne, if_pos hne]
      rfl

/-- And of the rest of a list. -/
theorem checkFrom?_eq (earlier rest : List Node) :
    checkFrom? (earlier ++ rest) earlier.length rest =
      some (checkAll (earlier ++ rest) (earlier.map Node.id).reverse rest) := by
  induction rest generalizing earlier with
  | nil => rfl
  | cons n rest ih =>
    have hnext := ih (earlier ++ [n])
    rw [List.append_assoc, List.singleton_append, List.length_append, List.length_singleton,
      List.map_append, List.map_singleton, List.reverse_append] at hnext
    rw [checkFrom?, checkAt?_eq, checkAll, Option.bind_eq_bind, Option.bind_some]
    cases checkDependencies (earlier ++ n :: rest) (earlier.map Node.id).reverse n with
    | error cause => rfl
    | ok _ => exact hnext

/-- **Every place that the check looks up is there.** -/
theorem checkByPlace?_eq (nodes : List Node) : checkByPlace? nodes = some (check nodes) := by
  unfold checkByPlace? check
  cases checkDistinct [] [] nodes with
  | error cause => rfl
  | ok _ =>
    have hall := checkFrom?_eq [] nodes
    simp only [List.nil_append, List.length_nil, List.map_nil, List.reverse_nil] at hall
    simp only [hall, Fallible.ok_bind, Option.bind_eq_bind, Option.bind_some]
    cases checkAll nodes [] nodes with
    | error cause => rfl
    | ok _ => cases orderOf nodes <;> rfl

/-! ## The outcome -/

/-- The graph of a list is refused for what the check finds. -/
theorem ofNodes_map (nodes : List Node) : (ofNodes nodes).map (fun _ => ()) = check nodes := by
  unfold ofNodes
  split
  · next h => exact h.symm
  · next cause h => exact h.symm

/-- A list is sound and becomes a graph, or it is refused for a fault. -/
theorem ofNodes_cases (nodes : List Node) :
    (Sound nodes ∧ ∃ g, ofNodes nodes = .ok g ∧ g.nodes = nodes) ∨
      (¬ Sound nodes ∧ ∃ why, ofNodes nodes = .error (.graph why) ∧ HasFault nodes why) := by
  cases hof : ofNodes nodes with
  | ok g =>
    have hnodes := nodes_of_ofNodes hof
    exact Or.inl ⟨hnodes ▸ sound_nodes g, g, rfl, hnodes⟩
  | error cause =>
    have hcheck : check nodes = .error cause := by
      rw [← ofNodes_map, hof]
      rfl
    obtain ⟨why, rfl, hfault⟩ := hasFault_of_check hcheck
    exact Or.inr ⟨fun hsound => hsound.not_hasFault why hfault, why, rfl, hfault⟩

/-- **What becomes of a list of resources.** The sound lists become graphs
of the same resources in the same order. Every other list is refused for a
fault that it has, which is never a circle. Either way no look-up fails. -/
theorem ofNodes_outcome (nodes : List Node) :
    ((∃ g, ofNodes nodes = .ok g ∧ g.nodes = nodes) ↔ Sound nodes) ∧
      ((∃ why, ofNodes nodes = .error (.graph why) ∧ HasFault nodes why) ↔ ¬ Sound nodes) ∧
      ofNodes nodes ≠ .error (.graph .cycle) ∧
      checkByPlace? nodes = some ((ofNodes nodes).map fun _ => ()) := by
  have hplaces : checkByPlace? nodes = some ((ofNodes nodes).map fun _ => ()) := by
    rw [ofNodes_map]
    exact checkByPlace?_eq nodes
  rcases ofNodes_cases nodes with ⟨hsound, g, hg, hnodes⟩ | ⟨hsound, why, hwhy, hfault⟩
  · refine ⟨iff_of_true ⟨g, hg, hnodes⟩ hsound, iff_of_false ?_ (not_not.2 hsound), ?_, hplaces⟩
    · rintro ⟨why, -, hfault⟩
      exact hsound.not_hasFault why hfault
    · rw [hg]
      nofun
  · refine ⟨iff_of_false ?_ hsound, iff_of_true ⟨why, hwhy, hfault⟩ hsound, ?_, hplaces⟩
    · rintro ⟨g, hg, -⟩
      rw [hwhy] at hg
      cases hg
    · rw [hwhy]
      rintro ⟨⟩
      exact hfault

end Graph

end ClusterBlueprint
