import ClusterBlueprint.Proofs.Graph.Ordering
import ClusterBlueprint.Proofs.Graph.Outcome
import Mathlib.Data.List.Sort
import Mathlib.Data.List.Count
/-!
# Graph — the order, counted with a queue

The order can be found without going through what is left again and again.
Count once how many dependencies each resource waits for, and keep the
places of those that wait for none in a queue, in ascending order. Whenever
one leaves the queue, each that depends on it waits for one fewer and is
queued when that was the last. Every look-up, and every subtraction, may
fail here (`none`). Whatever the counts, a turn leaves less to do
(`Queue.work`), so the queue runs empty.

After each turn the counts are those of the dependencies not yet placed and
the queue holds what is ready (`Shows`). So the first of the queue is the
first of the list that is ready, no look-up and no subtraction fails, and
the order is the same (`sortByQueue?_eq`).
-/

namespace ClusterBlueprint

namespace Graph

variable {nodes : List Node} {n : Node} {placed : List String}

/-! ## Counting -/

/-- How many dependencies each resource waits for, and which ones depend on
it. Resources are given by their places. -/
structure Tally where
  degrees : List Nat
  dependents : List (List Nat)

/-- Counts that the resource at one place depends on that at another. -/
def Tally.enter? (t : Tally) (i d : Nat) : Option Tally := do
  let degree ← t.degrees[i]?
  let waiting ← t.dependents[d]?
  some ⟨t.degrees.set i (degree + 1), t.dependents.set d (waiting ++ [i])⟩

/-- Counts the dependencies of the resource at a place. -/
def enterEach? (nodes : List Node) (id : String) (i : Nat) :
    List String → Tally → Option (Except Fault Tally)
  | [], t => some (.ok t)
  | dependency :: rest, t =>
    match place? nodes dependency with
    | none => some (.error (.graph (.missingDependency id dependency)))
    | some d => do enterEach? nodes id i rest (← t.enter? i d)

/-- Counts the dependencies of the resources from a place on. -/
def enterAll? (nodes : List Node) : (i : Nat) → List Node → Tally → Option (Except Fault Tally)
  | _, [], t => some (.ok t)
  | i, n :: rest, t => do
    match ← enterEach? nodes n.id i n.dependsOn.toList t with
    | .error cause => some (.error cause)
    | .ok t => enterAll? nodes (i + 1) rest t

/-! ## The queue -/

/-- How many dependencies each resource still waits for, and the places of
those that are ready. -/
structure Queue where
  degrees : List Nat
  ready : List Nat

/-- The resource at a place waits for one fewer. It is queued before the
first place that is not smaller when it waits for none. -/
def Queue.release? (q : Queue) (k : Nat) : Option Queue :=
  match q.degrees[k]? with
  | some (degree + 1) =>
    let ready := if degree = 0 then q.ready.orderedInsert (· ≤ ·) k else q.ready
    some ⟨q.degrees.set k degree, ready⟩
  | _ => none

/-- All that is counted, together. -/
def totalOf (counts : List Nat) : Nat := counts.foldr (· + ·) 0

/-- What a queue has to do at most. -/
def Queue.work (q : Queue) : Nat := totalOf q.degrees + q.ready.length

theorem totalOf_cons {x : Nat} {xs : List Nat} : totalOf (x :: xs) = x + totalOf xs := rfl

/-- One fewer is counted. -/
theorem totalOf_set {xs : List Nat} {k x : Nat} (h : xs[k]? = some (x + 1)) :
    totalOf (xs.set k x) + 1 = totalOf xs := by
  induction xs generalizing k with
  | nil => cases h
  | cons y ys ih =>
    cases k with
    | zero =>
      cases h
      rw [List.set_cons_zero, totalOf_cons, totalOf_cons]
      omega
    | succ k =>
      have hrest := ih (k := k) (by simpa using h)
      rw [List.set_cons_succ, totalOf_cons, totalOf_cons]
      omega

/-- To queue a resource is to have waited for one more. -/
theorem Queue.work_release? {q q' : Queue} {k : Nat} (h : q.release? k = some q') :
    q'.work ≤ q.work := by
  unfold release? at h
  split at h
  · next degree hk =>
    cases h
    have htotal := totalOf_set hk
    have hlength : (if degree = 0 then q.ready.orderedInsert (· ≤ ·) k else q.ready).length ≤
        q.ready.length + 1 := by
      split
      · rw [List.orderedInsert_length]
      · exact Nat.le_succ _
    simp only [work]
    omega
  · cases h

theorem Queue.work_foldlM {ks : List Nat} {q q' : Queue}
    (h : ks.foldlM Queue.release? q = some q') : q'.work ≤ q.work := by
  induction ks generalizing q with
  | nil =>
    cases h
    exact Nat.le_refl _
  | cons k ks ih =>
    rw [List.foldlM_cons] at h
    obtain ⟨r, hr, hrest⟩ := Option.bind_eq_some_iff.1 h
    exact Nat.le_trans (ih hrest) (work_release? hr)

/-- Takes places out of the queue until it is empty. -/
def drain? (nodes : List Node) (dependents : List (List Nat)) (q : Queue) : Option (List String) :=
  match hq : q.ready with
  | [] => some []
  | i :: rest =>
    match nodes[i]?, dependents[i]? with
    | some n, some waiting =>
      match h : waiting.foldlM Queue.release? ⟨q.degrees, rest⟩ with
      | some next =>
        have : next.work < q.work := by
          have := Queue.work_foldlM h
          simp only [Queue.work, hq, List.length_cons] at this ⊢
          omega
        (drain? nodes dependents next).map (n.id :: ·)
      | none => none
    | _, _ => none
termination_by q.work

/-- The order of a list by counting. -/
def sortByQueue? (nodes : List Node) : Option (Except Fault (List String)) := do
  match ← enterAll? nodes 0 nodes ⟨.replicate nodes.length 0, .replicate nodes.length []⟩ with
  | .error cause => some (.error cause)
  | .ok t =>
    let ready := (List.range nodes.length).filter fun i => t.degrees[i]? = some 0
    let order ← drain? nodes t.dependents ⟨t.degrees, ready⟩
    some (if order.length = nodes.length then .ok order else .error (.graph .cycle))

/-! ## What was counted -/

/-- A tally after the given dependencies, each the place of a resource and
an id. -/
def tallyOf (nodes : List Node) (entered : List (Nat × String)) : Tally :=
  ⟨nodes.mapIdx fun i _ => entered.countP (·.1 = i),
    nodes.map fun n => (entered.filter (·.2 = n.id)).map Prod.fst⟩

/-- The dependencies of the resources from a place on. -/
def entriesFrom (i : Nat) (nodes : List Node) : List (Nat × String) :=
  (nodes.zipIdx i).flatMap fun (n, k) => n.dependsOn.toList.map (k, ·)

/-- In a list with distinct ids, an id has one place. -/
theorem eq_of_getElem?_id (hdistinct : (nodes.map Node.id).Nodup) {i k : Nat} {m : Node}
    (hn : nodes[i]? = some n) (hm : nodes[k]? = some m) (hid : n.id = m.id) : i = k := by
  have hi : (nodes.map Node.id)[i]? = some n.id := by rw [List.getElem?_map, hn, Option.map_some]
  have hk : (nodes.map Node.id)[k]? = some n.id := by
    rw [List.getElem?_map, hm, Option.map_some, hid]
  obtain ⟨hlt, -⟩ := List.getElem?_eq_some_iff.1 hi
  exact (List.getElem?_inj hlt hdistinct).1 (hi.trans hk.symm)

/-- One more dependency is counted. -/
theorem enter?_tallyOf (hdistinct : (nodes.map Node.id).Nodup) {entered : List (Nat × String)}
    {i d : Nat} {m : Node} (hi : i < nodes.length) (hm : nodes[d]? = some m) :
    (tallyOf nodes entered).enter? i d = some (tallyOf nodes (entered ++ [(i, m.id)])) := by
  have hdegree : (tallyOf nodes entered).degrees[i]? = some (entered.countP (·.1 = i)) := by
    simp [tallyOf, hi]
  have hwaiting : (tallyOf nodes entered).dependents[d]? =
      some ((entered.filter (·.2 = m.id)).map Prod.fst) := by
    simp [tallyOf, hm]
  rw [Tally.enter?, hdegree, hwaiting, Option.bind_eq_bind, Option.bind_some, Option.bind_eq_bind,
    Option.bind_some, tallyOf, tallyOf]
  congr 2
  · refine List.ext_getElem? fun k => ?_
    by_cases hik : i = k
    · subst hik
      simp [hi]
    · simp [hik]
  · refine List.ext_getElem? fun k => ?_
    by_cases hdk : d = k
    · subst hdk
      obtain ⟨hlt, -⟩ := List.getElem?_eq_some_iff.1 hm
      rw [List.getElem?_set_self (by simpa using hlt), List.getElem?_map, hm]
      simp
    · rw [List.getElem?_set_ne hdk, List.getElem?_map, List.getElem?_map]
      refine Option.map_congr fun m' hm' => ?_
      have hid : m.id ≠ m'.id := fun hid => hdk (eq_of_getElem?_id hdistinct hm hm' hid)
      simp [hid]

/-- The dependencies of one resource are counted, or the first that is
missing is named. -/
theorem enterEach?_tallyOf (hdistinct : (nodes.map Node.id).Nodup)
    (entered : List (Nat × String)) (id : String) {i : Nat} (hi : i < nodes.length)
    (dependencies : List String) :
    enterEach? nodes id i dependencies (tallyOf nodes entered) =
      some (match dependencies.find? fun d => d ∉ nodes.map Node.id with
        | some d => .error (.graph (.missingDependency id d))
        | none => .ok (tallyOf nodes (entered ++ dependencies.map (i, ·)))) := by
  induction dependencies generalizing entered with
  | nil => rw [enterEach?, List.map_nil, List.append_nil, List.find?_nil]
  | cons d rest ih =>
    rw [enterEach?, List.find?_cons]
    cases hplace : place? nodes d with
    | none =>
      rw [decide_eq_true (place?_eq_none_iff.1 hplace)]
    | some k =>
      obtain ⟨m, hm, rfl⟩ := getElem?_of_place? hplace
      have hmem : m.id ∈ nodes.map Node.id := List.mem_map_of_mem (List.mem_of_getElem? hm)
      have hnext := ih (entered ++ [(i, m.id)])
      rw [List.append_assoc, List.singleton_append] at hnext
      simp only [hmem, not_true_eq_false, decide_false, enter?_tallyOf hdistinct hi hm,
        Option.bind_eq_bind, Option.bind_some, hnext, List.map_cons]

/-- And those of all the resources. -/
theorem enterAll?_tallyOf (hdistinct : (nodes.map Node.id).Nodup)
    (entered : List (Nat × String)) {i : Nat} {rest : List Node}
    (hi : i + rest.length ≤ nodes.length) :
    enterAll? nodes i rest (tallyOf nodes entered) =
      some (match rest.findSome? (missingOf (nodes.map Node.id)) with
        | some (id, d) => .error (.graph (.missingDependency id d))
        | none => .ok (tallyOf nodes (entered ++ entriesFrom i rest))) := by
  induction rest generalizing entered i with
  | nil => rw [enterAll?, entriesFrom, List.zipIdx_nil, List.flatMap_nil, List.append_nil,
      List.findSome?_nil]
  | cons n rest ih =>
    rw [List.length_cons] at hi
    have hentries : entriesFrom i (n :: rest) =
        n.dependsOn.toList.map (i, ·) ++ entriesFrom (i + 1) rest := rfl
    rw [enterAll?, enterEach?_tallyOf hdistinct entered n.id (by omega), List.findSome?_cons,
      missingOf, Option.bind_eq_bind, Option.bind_some]
    cases n.dependsOn.toList.find? fun d => d ∉ nodes.map Node.id with
    | some d => rfl
    | none =>
      have hnext := ih (entered ++ n.dependsOn.toList.map (i, ·)) (i := i + 1) (by omega)
      simp only [Option.map_none, hentries, ← List.append_assoc, hnext]

theorem mem_entriesFrom {k : Nat} {d : String} :
    (k, d) ∈ entriesFrom 0 nodes ↔ ∃ m, nodes[k]? = some m ∧ d ∈ m.dependsOn := by
  simp only [entriesFrom, List.mem_flatMap, List.mem_map, Prod.exists, Prod.mk.injEq,
    List.mem_zipIdx_iff_getElem?, TextSet.mem_def]
  constructor
  · rintro ⟨m, i, hm, x, hx, rfl, rfl⟩
    exact ⟨m, hm, hx⟩
  · rintro ⟨m, hm, hd⟩
    exact ⟨m, k, hm, d, hd, rfl, rfl⟩

theorem nodup_entriesFrom : (entriesFrom 0 nodes).Nodup := by
  refine List.nodup_flatMap.2 ⟨fun m _ => ?_, ?_⟩
  · exact m.1.dependsOn.nodup_toList.map (Prod.mk_right_injective m.2)
  · have hplaces : (nodes.zipIdx.map Prod.snd).Nodup := by
      rw [List.zipIdx_map_snd]
      exact List.nodup_range'
    refine (List.pairwise_map.1 hplaces).imp fun {a b} hne => ?_
    rintro e hea heb
    obtain ⟨x, -, rfl⟩ := List.mem_map.1 hea
    obtain ⟨y, -, heq⟩ := List.mem_map.1 heb
    exact hne (congrArg Prod.fst heq).symm

/-- The tally of all dependencies holds how many each resource has. -/
theorem degrees_tallyOf : (tallyOf nodes (entriesFrom 0 nodes)).degrees =
    nodes.map fun n => n.dependsOn.toList.length := by
  refine List.ext_getElem? fun k => ?_
  rw [tallyOf, List.getElem?_mapIdx, List.getElem?_map]
  refine Option.map_congr fun m hm => ?_
  -- the entries of one place are its dependencies
  have hperm : ((entriesFrom 0 nodes).filter (·.1 = k)).Perm (m.dependsOn.toList.map (k, ·)) := by
    refine (List.perm_ext_iff_of_nodup (nodup_entriesFrom.filter _)
      (m.dependsOn.nodup_toList.map (Prod.mk_right_injective k))).2 ?_
    rintro ⟨l, d⟩
    rw [List.mem_filter, mem_entriesFrom, List.mem_map]
    constructor
    · rintro ⟨⟨m', hm', hd⟩, hl⟩
      obtain rfl : l = k := of_decide_eq_true hl
      obtain rfl : m' = m := Option.some.inj (hm'.symm.trans hm)
      exact ⟨d, hd, rfl⟩
    · rintro ⟨x, hx, heq⟩
      cases heq
      exact ⟨⟨m, hm, hx⟩, decide_eq_true rfl⟩
  rw [List.countP_eq_length_filter, hperm.length_eq, List.length_map]

/-- Each place has the places that depend on its resource, each once. -/
def HasDependents (nodes : List Node) (dependents : List (List Nat)) : Prop :=
  ∀ (i : Nat) (n : Node), nodes[i]? = some n →
    ∃ ks : List Nat, dependents[i]? = some ks ∧ ks.Nodup ∧
      ∀ k, k ∈ ks ↔ ∃ m, nodes[k]? = some m ∧ n.id ∈ m.dependsOn

theorem hasDependents_tallyOf :
    HasDependents nodes (tallyOf nodes (entriesFrom 0 nodes)).dependents := by
  intro i n hn
  refine ⟨_, by rw [tallyOf, List.getElem?_map, hn, Option.map_some], ?_, fun k => ?_⟩
  · refine (nodup_entriesFrom.filter _).map_on fun e he e' he' heq => Prod.ext heq ?_
    simp only [List.mem_filter, decide_eq_true_eq] at he he'
    rw [he.2, he'.2]
  · rw [← mem_entriesFrom]
    simp

/-! ## One turn -/

/-- How many dependencies of a resource are not placed. -/
def waits (placed : List String) (n : Node) : Nat := n.dependsOn.toList.countP fun d => d ∉ placed

theorem waits_nil : waits [] n = n.dependsOn.toList.length := by
  simp [waits]

theorem waits_eq_zero_iff : waits placed n = 0 ↔ isReady placed n = true := by
  simp [waits, isReady, List.countP_eq_zero]

/-- Of the texts that are not placed, one more is placed. -/
theorem countP_not_mem {x : String} (hx : x ∉ placed) (xs : List String) :
    xs.countP (fun d => d ∉ placed) = xs.countP (fun d => d ∉ x :: placed) + xs.count x := by
  induction xs with
  | nil => rfl
  | cons y ys ih =>
    rw [List.countP_cons, List.countP_cons, List.count_cons, ih]
    by_cases hy : y = x
    · subst hy
      simp only [hx, not_false_eq_true, decide_true, List.mem_cons_self, not_true_eq_false,
        decide_false, if_true, beq_self_eq_true, Bool.false_eq_true, if_false]
      omega
    · simp only [List.mem_cons, hy, false_or, beq_iff_eq, if_false]
      omega

/-- Placing a resource is one fewer to wait for where it is depended on. -/
theorem waits_cons {x : String} (hx : x ∉ placed) :
    waits placed n = waits (x :: placed) n + if x ∈ n.dependsOn then 1 else 0 := by
  rw [waits, countP_not_mem hx, n.dependsOn.nodup_toList.count]
  rfl

/-- A new place is queued between the smaller and the larger ones. -/
theorem ascending_orderedInsert {ready : List Nat} {k : Nat} (h : ready.Pairwise (· < ·))
    (hk : k ∉ ready) : (ready.orderedInsert (· ≤ ·) k).Pairwise (· < ·) := by
  have hle : (ready.orderedInsert (· ≤ ·) k).Pairwise (· ≤ ·) :=
    (h.imp Nat.le_of_lt).orderedInsert k ready
  have hne : (ready.orderedInsert (· ≤ ·) k).Nodup :=
    (List.perm_orderedInsert _ k ready).nodup_iff.2 (List.nodup_cons.2 ⟨hk, h.imp Nat.ne_of_lt⟩)
  exact (hle.and hne).imp fun hlt => Nat.lt_of_le_of_ne hlt.1 hlt.2

/-- What releasing the resources at some places leaves. -/
structure Released (q : Queue) (ks : List Nat) (next : Queue) : Prop where
  degrees : ∀ k : Nat, next.degrees[k]? = q.degrees[k]?.map (· - if k ∈ ks then 1 else 0)
  ascending : next.ready.Pairwise (· < ·)
  ready : ∀ k, k ∈ next.ready ↔ k ∈ q.ready ∨ (k ∈ ks ∧ q.degrees[k]? = some 1)

/-- One place that waits and is not queued is released. -/
theorem exists_released_one {q : Queue} {k degree : Nat}
    (hdegree : q.degrees[k]? = some (degree + 1)) (hready : q.ready.Pairwise (· < ·))
    (hnew : k ∉ q.ready) :
    ∃ next, q.release? k = some next ∧ Released q [k] next := by
  refine ⟨_, by rw [Queue.release?, hdegree], fun l => ?_, ?_, fun l => ?_⟩
  · by_cases hkl : k = l
    · subst hkl
      rw [List.getElem?_set_self (List.getElem?_eq_some_iff.1 hdegree).1, hdegree]
      simp
    · simp [hkl, Ne.symm hkl]
  · by_cases hzero : degree = 0
    · simpa [hzero] using ascending_orderedInsert hready hnew
    · simpa [hzero] using hready
  · by_cases hkl : l = k
    · subst hkl
      by_cases hzero : degree = 0 <;> simp [hzero, hdegree, List.mem_orderedInsert]
    · by_cases hzero : degree = 0 <;> simp [hzero, hkl, List.mem_orderedInsert]

/-- Releasing one more first. -/
theorem Released.cons {q first next : Queue} {k : Nat} {ks : List Nat} (hk : k ∉ ks)
    (hone : Released q [k] first) (hrest : Released first ks next) :
    Released q (k :: ks) next where
  degrees l := by
    rw [hrest.degrees, hone.degrees, Option.map_map]
    congr 1
    funext x
    by_cases hlk : l = k
    · subst hlk
      simp [hk]
    · simp [hlk]
  ascending := hrest.ascending
  ready l := by
    rw [hrest.ready, hone.ready, hone.degrees]
    by_cases hlk : l = k
    · subst hlk
      simp [hk]
    · simp [hlk]

/-- **Places that wait and are not queued are released.** -/
theorem exists_released {ks : List Nat} {q : Queue} (hnodup : ks.Nodup)
    (hwait : ∀ k ∈ ks, ∃ degree, q.degrees[k]? = some (degree + 1))
    (hready : q.ready.Pairwise (· < ·)) (hnew : ∀ k ∈ ks, k ∉ q.ready) :
    ∃ next, ks.foldlM Queue.release? q = some next ∧ Released q ks next := by
  induction ks generalizing q with
  | nil => exact ⟨q, rfl, by simp, hready, by simp⟩
  | cons k ks ih =>
    obtain ⟨hk, hks⟩ := List.nodup_cons.1 hnodup
    obtain ⟨hknew, hksnew⟩ := List.forall_mem_cons.1 hnew
    obtain ⟨⟨degree, hdegree⟩, hkswait⟩ := List.forall_mem_cons.1 hwait
    obtain ⟨first, hfirst, hone⟩ := exists_released_one hdegree hready hknew
    have hne : ∀ l ∈ ks, l ≠ k := fun l hl hlk => hk (hlk ▸ hl)
    -- the others wait as before and are still not queued
    have hwait' : ∀ l ∈ ks, ∃ degree, first.degrees[l]? = some (degree + 1) := by
      intro l hl
      simpa [hone.degrees, hne l hl] using hkswait l hl
    have hnew' : ∀ l ∈ ks, l ∉ first.ready := by
      intro l hl
      simpa [hone.ready, hne l hl] using hksnew l hl
    obtain ⟨next, hnext, hrest⟩ := ih hks hwait' hone.ascending hnew'
    exact ⟨next, by rw [List.foldlM_cons, hfirst]; exact hnext, hone.cons hk hrest⟩

/-- **What holds after each turn**: the counts are of the dependencies that
are not placed, and the queue holds the places of what is ready. -/
structure Shows (nodes : List Node) (placed : List String) (q : Queue) : Prop where
  degrees : q.degrees = nodes.map (waits placed)
  ascending : q.ready.Pairwise (· < ·)
  ready : ∀ k : Nat, k ∈ q.ready ↔
    ∃ m, nodes[k]? = some m ∧ m.id ∉ placed ∧ isReady placed m = true
  /-- Nothing that is placed waits. -/
  closed : ∀ m ∈ nodes, m.id ∈ placed → isReady placed m = true

theorem isReady_cons {x : String} (h : isReady placed n = true) :
    isReady (x :: placed) n = true :=
  isReady_iff.2 fun j hj => List.mem_cons_of_mem _ (isReady_iff.1 h j hj)

section Turn

variable {q next : Queue} {i : Nat} {rest ks : List Nat}

theorem Shows.degree (h : Shows nodes placed q) {k : Nat} {m : Node} (hm : nodes[k]? = some m) :
    q.degrees[k]? = some (waits placed m) := by
  rw [h.degrees, List.getElem?_map, hm, Option.map_some]

/-- The front of the queue has a resource that is ready and not placed. -/
theorem Shows.front (h : Shows nodes placed q) (hq : q.ready = i :: rest)
    (hn : nodes[i]? = some n) : n.id ∉ placed ∧ isReady placed n = true := by
  obtain ⟨m, hm, hnew, hready⟩ := (h.ready i).1 (hq ▸ List.mem_cons_self)
  obtain rfl : m = n := Option.some.inj (hm.symm.trans hn)
  exact ⟨hnew, hready⟩

/-- What waits for a resource that is not placed is not queued. -/
theorem Shows.not_mem_ready (h : Shows nodes placed q) (hnew : n.id ∉ placed) {k : Nat} {m : Node}
    (hm : nodes[k]? = some m) (hdep : n.id ∈ m.dependsOn) : k ∉ q.ready := by
  rintro hk
  obtain ⟨m', hm', -, hready⟩ := (h.ready k).1 hk
  obtain rfl : m' = m := Option.some.inj (hm'.symm.trans hm)
  exact hnew (isReady_iff.1 hready _ hdep)

/-- **One turn keeps what holds.** The resource at the front is placed. -/
theorem Shows.of_released (hdistinct : (nodes.map Node.id).Nodup) (h : Shows nodes placed q)
    (hq : q.ready = i :: rest) (hn : nodes[i]? = some n)
    (hks : ∀ (k : Nat) m, nodes[k]? = some m → (k ∈ ks ↔ n.id ∈ m.dependsOn))
    (hdone : Released ⟨q.degrees, rest⟩ ks next) : Shows nodes (n.id :: placed) next := by
  obtain ⟨hnew, hready⟩ := h.front hq hn
  have hascending := h.ascending
  rw [hq, List.pairwise_cons] at hascending
  -- of the resources that are placed now, none waited before
  have hclosed : ∀ m ∈ nodes, m.id ∈ n.id :: placed → isReady placed m = true := by
    intro m hm hmem
    rcases List.mem_cons.1 hmem with hid | hplaced
    · rwa [List.inj_on_of_nodup_map hdistinct hm (List.mem_of_getElem? hn) hid]
    · exact h.closed m hm hplaced
  refine ⟨List.ext_getElem? fun k => ?_, hdone.ascending, fun k => ?_,
    fun m hm hmem => isReady_cons (hclosed m hm hmem)⟩
  · rw [hdone.degrees, h.degrees, List.getElem?_map, List.getElem?_map, Option.map_map]
    refine Option.map_congr fun m hm => ?_
    by_cases hdep : n.id ∈ m.dependsOn
    · simp [(hks k m hm).2 hdep, waits_cons hnew, hdep]
    · simp [mt (hks k m hm).1 hdep, waits_cons hnew, hdep]
  · rw [hdone.ready]
    constructor
    · rintro (hk | ⟨hk, hone⟩)
      · obtain ⟨m, hm, hmnew, hmready⟩ := (h.ready k).1 (hq ▸ List.mem_cons_of_mem i hk)
        refine ⟨m, hm, fun hmem => ?_, isReady_cons hmready⟩
        have hid := (List.mem_cons.1 hmem).resolve_right hmnew
        exact Nat.ne_of_lt (hascending.1 k hk) (eq_of_getElem?_id hdistinct hn hm hid.symm)
      · rw [h.degrees, List.getElem?_map] at hone
        obtain ⟨m, hm, hwaits⟩ := Option.map_eq_some_iff.1 hone
        have hstep := waits_cons (n := m) hnew
        rw [hwaits, if_pos ((hks k m hm).1 hk)] at hstep
        refine ⟨m, hm, fun hmem => ?_, waits_eq_zero_iff.1 (by omega)⟩
        have := waits_eq_zero_iff.2 (hclosed m (List.mem_of_getElem? hm) hmem)
        omega
    · rintro ⟨m, hm, hmnew, hmready⟩
      obtain ⟨hid, hmnew⟩ := not_or.1 (mt List.mem_cons.2 hmnew)
      have hwaits := waits_cons (n := m) hnew
      rw [waits_eq_zero_iff.2 hmready, Nat.zero_add] at hwaits
      by_cases hdep : n.id ∈ m.dependsOn
      · rw [if_pos hdep] at hwaits
        exact Or.inr ⟨(hks k m hm).2 hdep, hwaits ▸ h.degree hm⟩
      · rw [if_neg hdep, waits_eq_zero_iff] at hwaits
        have hmem := (h.ready k).2 ⟨m, hm, hmnew, hwaits⟩
        rw [hq, List.mem_cons] at hmem
        refine Or.inl (hmem.resolve_left fun hki => hid ?_)
        rw [hki, hn] at hm
        rw [Option.some.inj hm]

/-- A turn can always be made. -/
theorem Shows.exists_turn (hdistinct : (nodes.map Node.id).Nodup) (h : Shows nodes placed q)
    (hq : q.ready = i :: rest) (hn : nodes[i]? = some n) (hnodup : ks.Nodup)
    (hks : ∀ k, k ∈ ks ↔ ∃ m, nodes[k]? = some m ∧ n.id ∈ m.dependsOn) :
    ∃ next, ks.foldlM Queue.release? ⟨q.degrees, rest⟩ = some next ∧
      Shows nodes (n.id :: placed) next := by
  have hnew := (h.front hq hn).1
  have hascending := h.ascending
  rw [hq, List.pairwise_cons] at hascending
  have hwait : ∀ k ∈ ks, ∃ degree, q.degrees[k]? = some (degree + 1) := by
    intro k hk
    obtain ⟨m, hm, hdep⟩ := (hks k).1 hk
    exact ⟨_, by rw [h.degree hm, waits_cons hnew, if_pos hdep]⟩
  have hnone : ∀ k ∈ ks, k ∉ rest := by
    intro k hk hmem
    obtain ⟨m, hm, hdep⟩ := (hks k).1 hk
    exact h.not_mem_ready hnew hm hdep (hq ▸ List.mem_cons_of_mem i hmem)
  obtain ⟨next, hnext, hdone⟩ := exists_released (q := ⟨q.degrees, rest⟩) hnodup hwait
    hascending.2 hnone
  refine ⟨next, hnext, h.of_released hdistinct hq hn (fun k m hm => ?_) hdone⟩
  rw [hks, hm]
  simp

end Turn

/-! ## The whole run -/

section Run

variable {dependents : List (List Nat)} {q next : Queue} {i : Nat} {rest ks : List Nat}

theorem drain?_of_nil (hq : q.ready = []) : drain? nodes dependents q = some [] := by
  rw [drain?]
  split
  · rfl
  · next hcons =>
    rw [hq] at hcons
    cases hcons

theorem drain?_of_cons (hq : q.ready = i :: rest) (hn : nodes[i]? = some n)
    (hks : dependents[i]? = some ks)
    (hnext : ks.foldlM Queue.release? ⟨q.degrees, rest⟩ = some next) :
    drain? nodes dependents q = (drain? nodes dependents next).map (n.id :: ·) := by
  rw [drain?]
  split
  · next hnil =>
    rw [hq] at hnil
    cases hnil
  · next hcons =>
    rw [hq] at hcons
    cases hcons
    simp only [hn, hks]
    split
    · next hsome =>
      rw [hnext] at hsome
      cases hsome
      rfl
    · next hnone =>
      rw [hnext] at hnone
      cases hnone

/-- What is queued is left, and ready. -/
theorem Shows.exists_left (h : Shows nodes placed q) {k : Nat} (hk : k ∈ q.ready) :
    ∃ m ∈ nodes.filter fun m => m.id ∉ placed, nodes[k]? = some m ∧ isReady placed m = true := by
  obtain ⟨m, hm, hnew, hready⟩ := (h.ready k).1 hk
  exact ⟨m, List.mem_filter.2 ⟨List.mem_of_getElem? hm, decide_eq_true hnew⟩, hm, hready⟩

theorem Shows.ready_eq_nil (h : Shows nodes placed q)
    (hnone : ∀ m ∈ nodes.filter fun m => m.id ∉ placed, isReady placed m = false) :
    q.ready = [] := by
  refine List.eq_nil_iff_forall_not_mem.2 fun k hk => ?_
  obtain ⟨m, hm, -, hready⟩ := h.exists_left hk
  rw [hnone m hm] at hready
  cases hready

/-- The first of the queue is the first that is left and ready. -/
theorem Shows.exists_front {front back : List Node} (h : Shows nodes placed q)
    (hleft : (nodes.filter fun m => m.id ∉ placed) = front ++ n :: back)
    (hready : isReady placed n = true) (hfront : ∀ m ∈ front, isReady placed m = false) :
    ∃ i rest, q.ready = i :: rest ∧ nodes[i]? = some n := by
  obtain ⟨first, tail, rfl, rfl, htail⟩ := List.filter_eq_append_iff.1 hleft
  obtain ⟨passed, last, rfl, hpassed, hnew, -⟩ := List.filter_eq_cons_iff.1 htail
  have hn : (first ++ (passed ++ n :: last))[(first ++ passed).length]? = some n := by
    rw [← List.append_assoc]
    simp
  have hmem := (h.ready _).2 ⟨n, hn, of_decide_eq_true hnew, hready⟩
  cases hq : q.ready with
  | nil =>
    rw [hq] at hmem
    cases hmem
  | cons i rest =>
    refine ⟨i, rest, rfl, ?_⟩
    have hascending := h.ascending
    rw [hq] at hmem
    rw [hq, List.pairwise_cons] at hascending
    rcases List.mem_cons.1 hmem with hi | hrest
    · rw [← hi, hn]
    · -- one queued before it would have been passed over
      obtain ⟨m, hm, hminew, hmready⟩ := (h.ready i).1 (hq ▸ List.mem_cons_self)
      have hlt := hascending.1 _ hrest
      rw [← List.append_assoc, List.getElem?_append_left hlt] at hm
      rcases List.mem_append.1 (List.mem_of_getElem? hm) with hmfirst | hmpassed
      · rw [hfront m (List.mem_filter.2 ⟨hmfirst, decide_eq_true hminew⟩)] at hmready
        cases hmready
      · exact absurd (decide_eq_true hminew) (hpassed m hmpassed)

/-- **The queue goes as the run over what is left**, and comes to an end. -/
theorem Shows.exists_drain (hdistinct : (nodes.map Node.id).Nodup)
    (hdependents : HasDependents nodes dependents) {left : List Node}
    (h : Shows nodes placed q) (hleft : (nodes.filter fun m => m.id ∉ placed) = left) :
    ∃ order, drain? nodes dependents q = some order ∧
      placeAll placed left = if order.length = left.length then some order else none := by
  induction placed, left using placeAll_induct generalizing q with
  | done placed hrun =>
    have hq := h.ready_eq_nil (by
      rw [hleft]
      nofun)
    exact ⟨[], drain?_of_nil hq, hrun⟩
  | stuck placed left hne hnone hrun =>
    have hq := h.ready_eq_nil (hleft ▸ hnone)
    refine ⟨[], drain?_of_nil hq, ?_⟩
    rw [hrun, if_neg (by simpa [eq_comm] using hne)]
  | place placed front n back hready hfront hrun ih =>
    obtain ⟨i, rest, hq, hn⟩ := h.exists_front hleft hready hfront
    obtain ⟨ks, hks, hnodup, hmem⟩ := hdependents i n hn
    obtain ⟨next, hnext, hshows⟩ := h.exists_turn hdistinct hq hn hnodup hmem
    have hrest : (nodes.filter fun m => m.id ∉ n.id :: placed) = front ++ back := by
      have hsub : (front ++ n :: back).Sublist nodes := hleft ▸ List.filter_sublist
      have hnew := (nodup_middle (hdistinct.sublist (hsub.map Node.id))).1
      have hfilter : (nodes.filter fun m => m.id ∉ n.id :: placed) =
          (nodes.filter fun m => m.id ∉ placed).filter fun m => m.id ≠ n.id := by
        rw [List.filter_filter]
        simp
      have hkeep : ∀ m ∈ front ++ back, m.id ≠ n.id :=
        fun m hm hid => hnew (hid ▸ List.mem_map_of_mem hm)
      rw [hfilter, hleft, List.filter_append, List.filter_cons_of_neg (by simp),
        ← List.filter_append, List.filter_eq_self.2 fun m hm => decide_eq_true (hkeep m hm)]
    obtain ⟨order, horder, hplace⟩ := ih hshows hrest
    refine ⟨n.id :: order, by rw [drain?_of_cons hq hn hks hnext, horder, Option.map_some], ?_⟩
    rw [hrun, hplace]
    by_cases hlength : order.length = (front ++ back).length
    · rw [if_pos hlength, if_pos (by simp at hlength ⊢; omega), Option.map_some]
    · rw [if_neg hlength, if_neg (by simp at hlength ⊢; omega), Option.map_none]

/-- What was counted is what holds before the first turn. -/
theorem shows_tallyOf : Shows nodes []
    ⟨(tallyOf nodes (entriesFrom 0 nodes)).degrees, (List.range nodes.length).filter fun i =>
      (tallyOf nodes (entriesFrom 0 nodes)).degrees[i]? = some 0⟩ where
  degrees := by
    rw [degrees_tallyOf]
    exact List.map_congr_left fun n _ => waits_nil.symm
  ascending := List.pairwise_lt_range.filter _
  ready k := by
    rw [List.mem_filter, List.mem_range, degrees_tallyOf, List.getElem?_map]
    cases hm : nodes[k]? with
    | none => simp
    | some m =>
      rw [Option.map_some, ← waits_nil]
      simp [(List.getElem?_eq_some_iff.1 hm).1, waits_eq_zero_iff]
  closed := by simp

/-- **Counting with a queue finds the same order**, and no look-up and no
subtraction fails on the way. -/
theorem sortByQueue?_eq (hdistinct : (nodes.map Node.id).Nodup) :
    sortByQueue? nodes = some (orderOf nodes) := by
  have hempty : ⟨.replicate nodes.length 0, .replicate nodes.length []⟩ = tallyOf nodes [] := by
    rw [tallyOf, Tally.mk.injEq]
    constructor
    · exact (List.mapIdx_eq_replicate_iff.2 fun _ _ => rfl).symm
    · simp
  have hcount := enterAll?_tallyOf hdistinct [] (Nat.zero_add nodes.length).le
  rw [List.nil_append] at hcount
  rw [sortByQueue?, hempty, hcount, orderOf, Option.bind_eq_bind, Option.bind_some]
  cases nodes.findSome? (missingOf (nodes.map Node.id)) with
  | some missing => rfl
  | none =>
    have hleft : (nodes.filter fun m => m.id ∉ []) = nodes := by simp
    obtain ⟨order, horder, hplace⟩ :=
      shows_tallyOf.exists_drain hdistinct hasDependents_tallyOf hleft
    simp only [hplace]
    rw [horder, Option.bind_eq_bind, Option.bind_some]
    by_cases hlength : order.length = nodes.length
    · simp only [if_pos hlength]
    · simp only [if_neg hlength]

end Run

/-! ## The outcome -/

/-- A resource with an id and dependencies and nothing else. -/
def bare (id : String) (dependencies : List String) : Node :=
  ⟨id, .vpc, id, .null, .empty, .ofList dependencies⟩

/-- **What the order of a list with distinct ids is.** There is none exactly
when a dependency is missing or some run in a circle. Otherwise it is the
first of all orders that follow the dependencies. A graph is in its order
already. Counting with a queue comes to the same end. -/
theorem orderOf_exact (hdistinct : (nodes.map Node.id).Nodup) :
    ((∃ why, orderOf nodes = .error (.graph why)) ↔ Dangling nodes ∨ Circular nodes) ∧
      ((∃ order, orderOf nodes = .ok order ∧ FirstOrder nodes order) ↔
        ¬ (Dangling nodes ∨ Circular nodes)) ∧
      (∀ g, ofNodes nodes = .ok g → orderOf g.nodes = .ok (g.nodes.map Node.id)) ∧
      sortByQueue? nodes = some (orderOf nodes) := by
  have hgraph : ∀ g, ofNodes nodes = .ok g → orderOf g.nodes = .ok (g.nodes.map Node.id) :=
    fun g _ => (sound_nodes g).orderOf_eq
  have houtcome : ((∃ why, orderOf nodes = .error (.graph why)) ∧
      (Dangling nodes ∨ Circular nodes)) ∨
      ∃ order, orderOf nodes = .ok order ∧ FirstOrder nodes order := by
    rcases orderOf_cases hdistinct with ⟨i, j, hwhy, hij, hj⟩ | ⟨hwhy, -, hcircular⟩ | hfirst
    · exact Or.inl ⟨⟨_, hwhy⟩, Or.inl ⟨i, j, hij, hj⟩⟩
    · exact Or.inl ⟨⟨_, hwhy⟩, Or.inr hcircular⟩
    · exact Or.inr hfirst
  rcases houtcome with ⟨⟨why, hwhy⟩, hfault⟩ | ⟨order, horder, h⟩
  · refine ⟨iff_of_true ⟨why, hwhy⟩ hfault, iff_of_false ?_ (not_not.2 hfault), hgraph,
      sortByQueue?_eq hdistinct⟩
    rintro ⟨order, horder, -⟩
    rw [hwhy] at horder
    cases horder
  · have hnone : ¬ (Dangling nodes ∨ Circular nodes) :=
      not_or.2 ⟨h.orders.not_dangling, h.orders.not_circular⟩
    refine ⟨iff_of_false ?_ hnone, iff_of_true ⟨order, horder, h⟩ hnone, hgraph,
      sortByQueue?_eq hdistinct⟩
    rintro ⟨why, hwhy⟩
    rw [horder] at hwhy
    cases hwhy

/-- A subnet before its network. -/
theorem orderOf_exact_swapped :
    ([bare "subnet" ["vpc"], bare "vpc" []].map Node.id).Nodup ∧
      orderOf [bare "subnet" ["vpc"], bare "vpc" []] = .ok ["vpc", "subnet"] ∧
      ¬ Circular [bare "subnet" ["vpc"], bare "vpc" []] ∧
      sortByQueue? [bare "subnet" ["vpc"], bare "vpc" []] = some (.ok ["vpc", "subnet"]) := by
  have hdistinct : ([bare "subnet" ["vpc"], bare "vpc" []].map Node.id).Nodup := by decide
  have hplace : placeAll [] [bare "subnet" ["vpc"], bare "vpc" []] = some ["vpc", "subnet"] := by
    have hfirst : extractFirst (isReady []) [bare "subnet" ["vpc"], bare "vpc" []] =
        some (bare "vpc" [], [bare "subnet" ["vpc"]]) := rfl
    have hsecond : extractFirst (isReady ["vpc"]) [bare "subnet" ["vpc"]] =
        some (bare "subnet" ["vpc"], []) := rfl
    have hrest : placeAll ["vpc"] [bare "subnet" ["vpc"]] = some ["subnet"] := by
      rw [placeAll_eq, hsecond]
      exact congrArg (Option.map _) (placeAll_eq _ [])
    rw [placeAll_eq, hfirst]
    exact congrArg (Option.map _) hrest
  have horder : orderOf [bare "subnet" ["vpc"], bare "vpc" []] = .ok ["vpc", "subnet"] := by
    have hmissing : [bare "subnet" ["vpc"], bare "vpc" []].findSome?
        (missingOf ([bare "subnet" ["vpc"], bare "vpc" []].map Node.id)) = none := rfl
    rw [orderOf, hmissing, hplace]
  obtain ⟨hfault, -, -, hqueue⟩ := orderOf_exact hdistinct
  refine ⟨hdistinct, horder, fun hcircular => ?_, horder ▸ hqueue⟩
  obtain ⟨why, hwhy⟩ := hfault.2 (Or.inr hcircular)
  rw [horder] at hwhy
  cases hwhy

end Graph

end ClusterBlueprint
