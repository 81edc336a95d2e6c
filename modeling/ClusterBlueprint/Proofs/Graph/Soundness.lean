import ClusterBlueprint.Graph
import ClusterBlueprint.Proofs.Fallible
import Mathlib.Data.List.Nodup
/-!
# Graph — what a sound list of resources is

`Graph.check` walks a list of resources and finds the first thing wrong
with it. `Sound` says without walking what a list needs: ids and names of
its own for each resource, and every resource resolved by the ones before
it, its references all naming some of them and its dependencies being
exactly those. The check passes on the sound lists and no others
(`check_eq_ok_iff`), so what is shown of a `Graph` is shown of `Sound`.
-/

namespace ClusterBlueprint

namespace Graph

/-- What a resource needs of the ones before it. -/
structure Resolves (earlier : List Node) (n : Node) : Prop where
  /-- Each name that it refers to is the name of one of them. -/
  known : ∀ x ∈ n.references, x ∈ earlier.map Node.name
  /-- It depends on the ones it refers to. -/
  dependsOn : ∀ i, i ∈ n.dependsOn ↔ ∃ m ∈ earlier, m.name ∈ n.references ∧ m.id = i

/-- A list of resources that can be applied in its order. -/
structure Sound (nodes : List Node) : Prop where
  ids : (nodes.map Node.id).Nodup
  names : (nodes.map Node.name).Nodup
  resolved : ∀ earlier n later, nodes = earlier ++ n :: later → Resolves earlier n

/-! ## Names and ids as keys -/

/-- Where keys are distinct, a key finds the resource that has it. -/
theorem find?_key {key : Node → String} {nodes : List Node} (h : (nodes.map key).Nodup) {m : Node}
    (hm : m ∈ nodes) : (nodes.find? fun n => key n = key m) = some m := by
  obtain ⟨k, hk⟩ := Option.isSome_iff_exists.1
    (List.find?_isSome.2 ⟨m, hm, decide_eq_true rfl⟩ :
      (nodes.find? fun n => key n = key m).isSome)
  have hkey : key k = key m := by simpa using List.find?_some hk
  rw [hk, List.inj_on_of_nodup_map h (List.mem_of_find?_eq_some hk) hm hkey]

/-- Where names are distinct, a name has the id of the resource that has
it. -/
theorem idOf?_eq_some_iff {nodes : List Node} (h : (nodes.map Node.name).Nodup)
    {x i : String} : idOf? nodes x = some i ↔ ∃ m ∈ nodes, m.name = x ∧ m.id = i := by
  unfold idOf?
  constructor
  · intro hx
    obtain ⟨m, hm, rfl⟩ := Option.map_eq_some_iff.1 hx
    exact ⟨m, List.mem_of_find?_eq_some hm, by simpa using List.find?_some hm, rfl⟩
  · rintro ⟨m, hm, rfl, rfl⟩
    rw [find?_key h hm, Option.map_some]

/-- A name has an id exactly when some resource has the name. -/
theorem idOf?_isSome {nodes : List Node} {x : String} :
    (idOf? nodes x).isSome ↔ x ∈ nodes.map Node.name := by
  simp [idOf?, List.mem_map]

/-! ## The parts of the check -/

/-- The walk for repeats passes when ids and names are distinct, and new
with respect to the ones it started with. -/
theorem checkDistinct_eq_ok_iff {ids names : List String} {nodes : List Node} :
    checkDistinct ids names nodes = .ok () ↔
      ((nodes.map Node.id).Nodup ∧ ∀ n ∈ nodes, n.id ∉ ids) ∧
        (nodes.map Node.name).Nodup ∧ ∀ n ∈ nodes, n.name ∉ names := by
  induction nodes generalizing ids names with
  | nil => simp [checkDistinct]
  | cons n rest ih =>
    simp only [checkDistinct]
    split
    · next hid => simp [hid]
    · next hid =>
      split
      · next hname => simp [hname]
      · next hname =>
        rw [ih]
        simp only [List.map_cons, List.nodup_cons, List.mem_cons, List.mem_map, not_or,
          forall_eq_or_imp, hid, hname, not_false_eq_true, true_and]
        constructor
        · rintro ⟨⟨hi, hin⟩, hn, hnn⟩
          exact ⟨⟨⟨fun ⟨m, hm, he⟩ => (hin m hm).1 he, hi⟩, fun m hm => (hin m hm).2⟩,
            ⟨fun ⟨m, hm, he⟩ => (hnn m hm).1 he, hn⟩, fun m hm => (hnn m hm).2⟩
        · rintro ⟨⟨⟨hi1, hi⟩, hin⟩, ⟨hn1, hn⟩, hnn⟩
          exact ⟨⟨hi, fun m hm => ⟨fun he => hi1 ⟨m, hm, he⟩, hin m hm⟩⟩, hn,
            fun m hm => ⟨fun he => hn1 ⟨m, hm, he⟩, hnn m hm⟩⟩

/-- Names that are looked up one by one give a set of ids when each of
them has one, and the set is then that of their ids. -/
theorem lookUp_eq_ok_iff {look : String → Option String} {cause : String → Fault}
    {names ids : TextSet} :
    (do let found ← names.toList.mapM fun x =>
          match look x with
          | some i => Except.ok i
          | none => .error (cause x)
        pure (TextSet.ofList found)) = .ok ids ↔
      (∀ x ∈ names, (look x).isSome) ∧ ∀ i, i ∈ ids ↔ ∃ x ∈ names, look x = some i := by
  have hstep : ∀ x i, (match look x with
      | some i => Except.ok i
      | none => .error (cause x)) = .ok i ↔ look x = some i := by
    intro x i
    cases look x <;> simp
  rw [Fallible.bind_eq_ok]
  simp only [Fallible.mapM_eq_ok_iff, hstep]
  constructor
  · rintro ⟨found, hfound, hids⟩
    cases hids
    refine ⟨fun x hx => ?_, fun i => ?_⟩
    · obtain ⟨i, -, hi⟩ := Fallible.exists_right_of_forall₂ hfound hx
      simp [hi]
    · rw [TextSet.mem_ofList]
      constructor
      · intro hi
        exact Fallible.exists_left_of_forall₂ hfound hi
      · rintro ⟨x, hx, hi⟩
        obtain ⟨j, hj, hj'⟩ := Fallible.exists_right_of_forall₂ hfound hx
        rw [hi] at hj'
        cases hj'
        exact hj
  · rintro ⟨hknown, hids⟩
    have hfound : List.Forall₂ (fun x i => look x = some i) names.toList
        (names.toList.map fun x => (look x).getD "") := by
      rw [List.forall₂_map_right_iff, List.forall₂_same]
      intro x hx
      obtain ⟨i, hi⟩ := Option.isSome_iff_exists.1 (hknown x hx)
      simp [hi]
    refine ⟨_, hfound, congrArg Except.ok (TextSet.ext_mem fun i => ?_)⟩
    rw [TextSet.mem_ofList, hids]
    constructor
    · intro hi
      exact Fallible.exists_left_of_forall₂ hfound hi
    · rintro ⟨x, hx, hi⟩
      exact List.mem_map.2 ⟨x, hx, by simp [hi]⟩

/-- Names that all have an id have a set of ids. -/
theorem exists_lookUp {look : String → Option String} {names : TextSet}
    (h : ∀ x ∈ names, (look x).isSome) :
    ∃ ids : TextSet, ∀ i, i ∈ ids ↔ ∃ x ∈ names, look x = some i := by
  refine ⟨TextSet.ofList (names.toList.map fun x => (look x).getD ""), fun i => ?_⟩
  rw [TextSet.mem_ofList, List.mem_map]
  constructor
  · rintro ⟨x, hx, rfl⟩
    obtain ⟨j, hj⟩ := Option.isSome_iff_exists.1 (h x hx)
    exact ⟨x, hx, by rw [hj, Option.getD_some]⟩
  · rintro ⟨x, hx, hi⟩
    exact ⟨x, hx, by rw [hi, Option.getD_some]⟩

/-- The ids that a resource refers to. -/
theorem referredIds_eq_ok_iff {nodes : List Node} {n : Node} {ids : TextSet} :
    referredIds nodes n = .ok ids ↔
      (∀ x ∈ n.references, (idOf? nodes x).isSome) ∧
        ∀ i, i ∈ ids ↔ ∃ x ∈ n.references, idOf? nodes x = some i :=
  lookUp_eq_ok_iff

/-- Dependencies pass when they are the ids referred to, and stand before
the resource. -/
theorem checkDependencies_eq_ok_iff {nodes : List Node} {earlier : List String} {n : Node} :
    checkDependencies nodes earlier n = .ok () ↔
      referredIds nodes n = .ok n.dependsOn ∧ ∀ i ∈ n.dependsOn, i ∈ earlier := by
  unfold checkDependencies
  cases href : referredIds nodes n with
  | error cause => simp
  | ok ids =>
    by_cases heq : ids = n.dependsOn
    · subst heq
      cases hlate : n.dependsOn.toList.find? fun d => d ∉ earlier with
      | none =>
        have hall : ∀ i ∈ n.dependsOn, i ∈ earlier := fun i hi => by
          simpa using List.find?_eq_none.1 hlate i hi
        simpa [hlate, pure, Except.pure] using hall
      | some d =>
        have hd : d ∈ n.dependsOn := List.mem_of_find?_eq_some hlate
        have hd' : d ∉ earlier := by simpa using List.find?_some hlate
        have hnot : ¬ ∀ i ∈ n.dependsOn, i ∈ earlier := fun h => hd' (h d hd)
        simpa [throw, throwThe, MonadExceptOf.throw] using hnot
    · simp [heq, throw, throwThe, MonadExceptOf.throw]

/-- The walk over all resources passes when each passes after the ones
before it. -/
theorem checkAll_eq_ok_iff {nodes : List Node} {seen : List String} {rest : List Node} :
    checkAll nodes seen rest = .ok () ↔
      ∀ earlier n later, rest = earlier ++ n :: later →
        checkDependencies nodes ((earlier.map Node.id).reverse ++ seen) n = .ok () := by
  induction rest generalizing seen with
  | nil => simp [checkAll]
  | cons m rest ih =>
    rw [checkAll, Fallible.bind_eq_ok]
    constructor
    · rintro ⟨_, hm, hrest⟩ earlier n later h
      cases earlier with
      | nil =>
        cases h
        exact hm
      | cons e earlier =>
        cases h
        simpa using ih.1 hrest earlier n later rfl
    · intro h
      refine ⟨(), h [] m rest rfl, ih.2 fun earlier n later heq => ?_⟩
      simpa using h (m :: earlier) n later (by rw [heq, List.cons_append])

/-! ## The order -/

/-- One resource is placed, or none is ready. -/
theorem placeAll_eq (placed : List String) (left : List Node) :
    placeAll placed left = match extractFirst (isReady placed) left with
      | some (n, rest) => (placeAll (n.id :: placed) rest).map (n.id :: ·)
      | none => if left.isEmpty then some [] else none := by
  rw [placeAll]
  split <;> simp_all

/-- Where each resource that is left waits only for ones that are placed or
stand before it, the resources are placed in the order they stand in. -/
theorem placeAll_eq_some {placed : List String} {left : List Node}
    (h : ∀ earlier n later, left = earlier ++ n :: later →
      ∀ i ∈ n.dependsOn, i ∈ placed ∨ i ∈ earlier.map Node.id) :
    placeAll placed left = some (left.map Node.id) := by
  induction left generalizing placed with
  | nil => exact placeAll_eq placed []
  | cons n rest ih =>
    -- the first resource is ready, so none is passed over
    have hready : isReady placed n = true := by
      rw [isReady, List.all_eq_true]
      intro i hi
      simpa using h [] n rest rfl i hi
    have hrest : placeAll (n.id :: placed) rest = some (rest.map Node.id) := by
      refine ih fun earlier m later heq i hi => ?_
      rcases h (n :: earlier) m later (by rw [heq, List.cons_append]) i hi with hp | he
      · exact Or.inl (by simp [hp])
      · rcases List.mem_cons.1 he with rfl | he
        · exact Or.inl (by simp)
        · exact Or.inr he
    rw [placeAll_eq, extractFirst, if_pos hready]
    simp only [hrest, Option.map_some, List.map_cons]

/-- A list whose resources wait only for ones before them is in order
already. -/
theorem orderOf_eq_ok {nodes : List Node}
    (h : ∀ earlier n later, nodes = earlier ++ n :: later →
      ∀ i ∈ n.dependsOn, i ∈ earlier.map Node.id) :
    orderOf nodes = .ok (nodes.map Node.id) := by
  have hmissing : nodes.findSome? (missingOf (nodes.map Node.id)) = none := by
    rw [List.findSome?_eq_none_iff]
    intro n hn
    obtain ⟨earlier, later, rfl⟩ := List.append_of_mem hn
    rw [missingOf, Option.map_eq_none_iff, List.find?_eq_none]
    intro i hi
    have : i ∈ earlier.map Node.id := h earlier n later rfl i hi
    simp_all
  rw [orderOf, hmissing]
  simp [placeAll_eq_some fun earlier n later heq i hi => Or.inr (h earlier n later heq i hi)]

/-! ## The check passes on the sound lists -/

/-- In a list with distinct keys, a member that shares its key with one of
the front is in the front. -/
theorem mem_front_of_key {α : Type} {key : α → String} {front : List α} {x m : α} {back : List α}
    (h : ((front ++ x :: back).map key).Nodup) (hm : m ∈ front ++ x :: back)
    (hkey : key m ∈ front.map key) : m ∈ front := by
  obtain ⟨k, hk, heq⟩ := List.mem_map.1 hkey
  exact List.inj_on_of_nodup_map h (by simp [hk]) hm heq ▸ hk

/-- Where ids and names are distinct, a resource passes the check exactly
when the ones before it resolve it. -/
theorem checkDependencies_iff_resolves {earlier later : List Node} {n : Node}
    (hids : ((earlier ++ n :: later).map Node.id).Nodup)
    (hnames : ((earlier ++ n :: later).map Node.name).Nodup) :
    checkDependencies (earlier ++ n :: later) (earlier.map Node.id).reverse n = .ok () ↔
      Resolves earlier n := by
  rw [checkDependencies_eq_ok_iff, referredIds_eq_ok_iff]
  simp only [idOf?_isSome, idOf?_eq_some_iff hnames, List.mem_reverse]
  constructor
  · rintro ⟨⟨hknown, hdeps⟩, hbefore⟩
    refine ⟨fun x hx => ?_, fun i => ⟨fun hi => ?_, ?_⟩⟩
    · obtain ⟨m, hm, rfl⟩ := List.mem_map.1 (hknown x hx)
      have hid : m.id ∈ earlier.map Node.id := hbefore _ ((hdeps _).2 ⟨_, hx, m, hm, rfl, rfl⟩)
      exact List.mem_map_of_mem (mem_front_of_key hids hm hid)
    · obtain ⟨x, hx, m, hm, rfl, rfl⟩ := (hdeps i).1 hi
      exact ⟨m, mem_front_of_key hids hm (hbefore _ hi), hx, rfl⟩
    · rintro ⟨m, hm, hx, rfl⟩
      exact (hdeps _).2 ⟨_, hx, m, by simp [hm], rfl, rfl⟩
  · rintro ⟨hknown, hdeps⟩
    refine ⟨⟨fun x hx => ?_, fun i => ?_⟩, fun i hi => ?_⟩
    · have := hknown x hx
      simp_all
    · rw [hdeps]
      constructor
      · rintro ⟨m, hm, hx, rfl⟩
        exact ⟨m.name, hx, m, by simp [hm], rfl, rfl⟩
      · rintro ⟨x, hx, m, hm, rfl, rfl⟩
        exact ⟨m, mem_front_of_key hnames hm (hknown _ hx), hx, rfl⟩
    · obtain ⟨m, hm, -, rfl⟩ := (hdeps i).1 hi
      exact List.mem_map_of_mem hm

/-- A list that both walks pass is sound. -/
theorem sound_of_walks {nodes : List Node} (hdistinct : checkDistinct [] [] nodes = .ok ())
    (hall : checkAll nodes [] nodes = .ok ()) : Sound nodes := by
  obtain ⟨⟨hids, -⟩, hnames, -⟩ := checkDistinct_eq_ok_iff.1 hdistinct
  refine ⟨hids, hnames, fun earlier n later heq => ?_⟩
  have hn := checkAll_eq_ok_iff.1 hall earlier n later heq
  subst heq
  rw [List.append_nil] at hn
  exact (checkDependencies_iff_resolves hids hnames).1 hn

/-- A sound list is in order already. -/
theorem Sound.orderOf_eq {nodes : List Node} (h : Sound nodes) :
    orderOf nodes = .ok (nodes.map Node.id) := by
  refine orderOf_eq_ok fun earlier n later heq i hi => ?_
  obtain ⟨m, hm, -, rfl⟩ := ((h.resolved earlier n later heq).dependsOn i).1 hi
  exact List.mem_map_of_mem hm

/-- **The check passes on the sound lists and no others.** -/
theorem check_eq_ok_iff {nodes : List Node} : check nodes = .ok () ↔ Sound nodes := by
  unfold check
  simp only [Fallible.bind_eq_ok]
  constructor
  · rintro ⟨_, hdistinct, _, hall, -⟩
    exact sound_of_walks hdistinct hall
  · intro h
    refine ⟨(), checkDistinct_eq_ok_iff.2 ⟨⟨h.ids, by simp⟩, h.names, by simp⟩, (),
      checkAll_eq_ok_iff.2 fun earlier n later heq => ?_, nodes.map Node.id, h.orderOf_eq, rfl⟩
    have hn := h.resolved earlier n later heq
    subst heq
    rw [List.append_nil]
    exact (checkDependencies_iff_resolves h.ids h.names).2 hn

/-- The list of a graph is sound. -/
theorem sound_nodes (g : Graph) : Sound g.nodes := check_eq_ok_iff.1 g.sound

/-- A sound list makes a graph. -/
theorem ofNodes_of_sound {nodes : List Node} (h : Sound nodes) :
    ∃ g, ofNodes nodes = .ok g ∧ g.nodes = nodes := by
  have hcheck := check_eq_ok_iff.2 h
  refine ⟨⟨nodes, hcheck⟩, ?_, rfl⟩
  unfold ofNodes
  split
  · rfl
  · next fault hfault => rw [hcheck] at hfault; cases hfault

/-- **A resource of a sound list depends on the resources that have the
names it refers to**, wherever they stand. -/
theorem Sound.mem_dependsOn {nodes : List Node} (h : Sound nodes) {n : Node} (hn : n ∈ nodes)
    {i : String} : i ∈ n.dependsOn ↔ ∃ m ∈ nodes, m.name ∈ n.references ∧ m.id = i := by
  obtain ⟨earlier, later, rfl⟩ := List.append_of_mem hn
  obtain ⟨hknown, hdeps⟩ := h.resolved earlier n later rfl
  rw [hdeps]
  constructor
  · rintro ⟨m, hm, href, rfl⟩
    exact ⟨m, List.mem_append_left _ hm, href, rfl⟩
  · rintro ⟨m, hm, href, rfl⟩
    exact ⟨m, mem_front_of_key h.names hm (hknown _ href), href, rfl⟩

/-- The names that a resource of a sound list refers to are names of the
list. -/
theorem Sound.exists_name {nodes : List Node} (h : Sound nodes) {n : Node} (hn : n ∈ nodes)
    {x : String} (hx : x ∈ n.references) : ∃ m ∈ nodes, m.name = x := by
  obtain ⟨earlier, later, rfl⟩ := List.append_of_mem hn
  obtain ⟨m, hm, rfl⟩ := List.mem_map.1 ((h.resolved earlier n later rfl).known x hx)
  exact ⟨m, List.mem_append_left _ hm, rfl⟩

/-! ## Sound lists, built from the front -/

/-- The empty list is sound. -/
theorem sound_nil : Sound [] :=
  ⟨List.nodup_nil, List.nodup_nil, fun earlier n later h => by simp at h⟩

/-- A resource of a list that ends with one is that one, or stands before
it. -/
theorem split_concat {nodes earlier later : List Node} {n m : Node}
    (h : nodes ++ [n] = earlier ++ m :: later) :
    earlier = nodes ∧ m = n ∨ ∃ later, nodes = earlier ++ m :: later := by
  rcases List.eq_nil_or_concat later with rfl | ⟨later, k, rfl⟩
  · obtain ⟨hfront, hlast⟩ := List.append_inj' h rfl
    cases hlast
    exact Or.inl ⟨hfront.symm, rfl⟩
  · rw [List.concat_eq_append, ← List.cons_append, ← List.append_assoc] at h
    exact Or.inr ⟨later, (List.append_inj' h rfl).1⟩

/-- **A sound list stays sound** when a resource is added that has an id
and a name of its own and that the list resolves. -/
theorem sound_append {nodes : List Node} {n : Node} (h : Sound nodes)
    (hid : n.id ∉ nodes.map Node.id) (hname : n.name ∉ nodes.map Node.name)
    (hres : Resolves nodes n) : Sound (nodes ++ [n]) := by
  refine ⟨?_, ?_, fun earlier m later heq => ?_⟩
  · rw [List.map_append, List.map_singleton]
    exact List.nodup_append.2 ⟨h.ids, by simp, by
      rintro a ha b hb rfl
      exact hid (List.mem_singleton.1 hb ▸ ha)⟩
  · rw [List.map_append, List.map_singleton]
    exact List.nodup_append.2 ⟨h.names, by simp, by
      rintro a ha b hb rfl
      exact hname (List.mem_singleton.1 hb ▸ ha)⟩
  · rcases split_concat heq with ⟨rfl, rfl⟩ | ⟨later, heq⟩
    · exact hres
    · exact h.resolved earlier m later heq

end Graph

end ClusterBlueprint
