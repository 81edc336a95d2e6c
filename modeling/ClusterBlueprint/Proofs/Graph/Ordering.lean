import ClusterBlueprint.Proofs.Graph.Soundness
import Mathlib.Data.Fintype.Order
import Mathlib.Logic.Relation
/-!
# Graph — the order that follows the dependencies

`placeAll` takes the first resource that is ready until none is left or
none is ready. What it has placed so far and what is left decide how it
goes on, so each fact about it is stated for both (`Orders`) and follows by
induction on the run. An order it finds comes after the dependencies
(`orders_of_placeAll`) and before every other such order, by places in the
list (`lex_of_placeAll`): whatever another order begins with is ready, and
the first that is ready was taken. Where it finds none, resources are left
that wait for each other, finitely many, so some wait in a circle
(`circular_of_placeAll`).
-/

namespace ClusterBlueprint

namespace Graph

variable {nodes left front back : List Node} {n : Node} {i j : String}
variable {placed order other : List String}

/-- One resource depends on another; both are given by their ids. -/
def DependsOn (nodes : List Node) (i j : String) : Prop := ∃ n ∈ nodes, n.id = i ∧ j ∈ n.dependsOn

/-- Some resource depends on one that is not in the list. -/
def Dangling (nodes : List Node) : Prop := ∃ i j, DependsOn nodes i j ∧ j ∉ nodes.map Node.id

/-- Some resource depends on itself, at once or through others. -/
def Circular (nodes : List Node) : Prop := ∃ i, Relation.TransGen (DependsOn nodes) i i

/-- An order of the resources that are left in which each comes after its
dependencies, apart from those that are placed already. -/
structure Orders (placed : List String) (left : List Node) (order : List String) : Prop where
  perm : order.Perm (left.map Node.id)
  after : ∀ front i back, order = front ++ i :: back →
    ∀ j, DependsOn left i j → j ∈ placed ∨ j ∈ front

/-- The places that the ids of an order have in a list. -/
def positions (nodes : List Node) (order : List String) : List Nat :=
  order.map fun i => (nodes.map Node.id).idxOf i

/-! ## Dependencies of a part -/

theorem DependsOn.mem (h : DependsOn nodes i j) : i ∈ nodes.map Node.id := by
  obtain ⟨n, hn, rfl, -⟩ := h
  exact List.mem_map_of_mem hn

theorem dependsOn_middle : DependsOn (front ++ n :: back) i j ↔
    (n.id = i ∧ j ∈ n.dependsOn) ∨ DependsOn (front ++ back) i j := by
  simp only [DependsOn, List.perm_middle.mem_iff, List.mem_cons, exists_eq_or_imp]

theorem Circular.middle (h : Circular (front ++ back)) : Circular (front ++ n :: back) := by
  obtain ⟨i, hi⟩ := h
  exact ⟨i, hi.lift id fun _ _ => dependsOn_middle.2 ∘ Or.inr⟩

/-- A resource of a list brings its id. -/
theorem map_middle :
    ((front ++ n :: back).map Node.id).Perm (n.id :: (front ++ back).map Node.id) :=
  List.perm_middle.map Node.id

theorem nodup_middle (h : ((front ++ n :: back).map Node.id).Nodup) :
    n.id ∉ (front ++ back).map Node.id ∧ ((front ++ back).map Node.id).Nodup :=
  List.nodup_cons.1 (map_middle.nodup_iff.1 h)

/-! ## One step -/

/-- What is taken out of a list is the first that satisfies the test. -/
theorem extractFirst_eq_some {α : Type} {p : α → Bool} {xs ys : List α} {y : α}
    (h : extractFirst p xs = some (y, ys)) :
    ∃ front back, xs = front ++ y :: back ∧ ys = front ++ back ∧ p y = true ∧
      ∀ x ∈ front, p x = false := by
  induction xs generalizing ys with
  | nil => cases h
  | cons x xs ih =>
    rw [extractFirst] at h
    split at h
    · next hx =>
      cases h
      exact ⟨[], xs, rfl, rfl, hx, List.forall_mem_nil _⟩
    · next hx =>
      obtain ⟨⟨z, zs⟩, hz, heq⟩ := Option.map_eq_some_iff.1 h
      cases heq
      obtain ⟨front, back, rfl, rfl, hy, hfront⟩ := ih hz
      exact ⟨x :: front, back, rfl, rfl, hy,
        List.forall_mem_cons.2 ⟨Bool.eq_false_iff.2 hx, hfront⟩⟩

/-- Nothing is taken out of a list where nothing satisfies the test. -/
theorem extractFirst_eq_none {α : Type} {p : α → Bool} {xs : List α}
    (h : extractFirst p xs = none) : ∀ x ∈ xs, p x = false := by
  induction xs with
  | nil => exact List.forall_mem_nil _
  | cons x xs ih =>
    rw [extractFirst] at h
    split at h
    · cases h
    · next hx =>
      exact List.forall_mem_cons.2 ⟨Bool.eq_false_iff.2 hx, ih (Option.map_eq_none_iff.1 h)⟩

theorem isReady_iff : isReady placed n = true ↔ ∀ j ∈ n.dependsOn, j ∈ placed := by
  simp [isReady, TextSet.mem_def]

/-- An order can be gone on with after its first resource. -/
theorem Orders.tail (h : Orders placed (front ++ n :: back) (n.id :: order)) :
    Orders (n.id :: placed) (front ++ back) order where
  perm := (h.perm.trans map_middle).cons_inv
  after before i rest heq j hj := by
    rcases h.after (n.id :: before) i rest (by rw [heq, List.cons_append]) j
      (dependsOn_middle.2 (Or.inr hj)) with hp | hb
    · exact Or.inl (List.mem_cons_of_mem _ hp)
    · exact (List.mem_cons.1 hb).imp_left fun he => List.mem_cons.2 (Or.inl he)

/-- A resource that is ready can be put before an order of the others. -/
theorem Orders.cons (h : Orders (n.id :: placed) (front ++ back) order)
    (hnew : n.id ∉ (front ++ back).map Node.id) (hready : isReady placed n = true) :
    Orders placed (front ++ n :: back) (n.id :: order) where
  perm := (h.perm.cons n.id).trans map_middle.symm
  after before i rest heq j hj := by
    rcases dependsOn_middle.1 hj with ⟨rfl, hn⟩ | hrest
    · exact Or.inl (isReady_iff.1 hready j hn)
    · cases before with
      | nil =>
        obtain ⟨rfl, -⟩ := List.cons.inj heq
        exact absurd hrest.mem hnew
      | cons k before =>
        obtain ⟨rfl, rfl⟩ := List.cons.inj heq
        rcases h.after before i rest rfl j hrest with hp | hb
        · exact (List.mem_cons.1 hp).symm.imp_right fun he => List.mem_cons.2 (Or.inl he)
        · exact Or.inr (List.mem_cons_of_mem _ hb)

/-- Whatever an order begins with is ready. -/
theorem Orders.isReady_head (h : Orders placed left (n.id :: order)) (hn : n ∈ left) :
    isReady placed n = true := by
  refine isReady_iff.2 fun j hj => ?_
  exact (h.after [] n.id order rfl j ⟨n, hn, rfl, hj⟩).resolve_right List.not_mem_nil

/-! ## The run -/

/-- **How a run goes**: nothing is left, or nothing is ready, or the first
that is ready is placed and the run goes on. -/
@[elab_as_elim]
theorem placeAll_induct {motive : List String → List Node → Prop}
    (done : ∀ placed, placeAll placed [] = some [] → motive placed [])
    (stuck : ∀ placed left, left ≠ [] → (∀ m ∈ left, isReady placed m = false) →
      placeAll placed left = none → motive placed left)
    (place : ∀ placed front n back, isReady placed n = true →
      (∀ m ∈ front, isReady placed m = false) →
      placeAll placed (front ++ n :: back) =
        (placeAll (n.id :: placed) (front ++ back)).map (n.id :: ·) →
      motive (n.id :: placed) (front ++ back) → motive placed (front ++ n :: back))
    (placed : List String) (left : List Node) : motive placed left := by
  induction hlength : left.length using Nat.strong_induction_on generalizing placed left with
  | _ k ih =>
    have hrun := placeAll_eq placed left
    cases hfirst : extractFirst (isReady placed) left with
    | some found =>
      obtain ⟨n, rest⟩ := found
      rw [hfirst] at hrun
      obtain ⟨front, back, rfl, rfl, hready, hfront⟩ := extractFirst_eq_some hfirst
      have hlt := length_of_extractFirst hfirst
      exact place placed front n back hready hfront hrun (ih _ (by omega) _ _ rfl)
    | none =>
      rw [hfirst] at hrun
      cases left with
      | nil => exact done placed hrun
      | cons m left =>
        exact stuck placed _ (List.cons_ne_nil m left) (extractFirst_eq_none hfirst) hrun

/-- **An order that is found comes after the dependencies.** -/
theorem orders_of_placeAll (hdistinct : (left.map Node.id).Nodup)
    (h : placeAll placed left = some order) : Orders placed left order := by
  induction placed, left using placeAll_induct generalizing order with
  | done placed hrun =>
    rw [hrun] at h
    cases h
    exact ⟨List.Perm.refl _, by simp⟩
  | stuck placed left _ _ hrun =>
    rw [hrun] at h
    cases h
  | place placed front n back hready _ hrun ih =>
    rw [hrun] at h
    obtain ⟨rest, hrest, rfl⟩ := Option.map_eq_some_iff.1 h
    exact (ih (nodup_middle hdistinct).2 hrest).cons (nodup_middle hdistinct).1 hready

/-- **Every other order comes after it**, by any key that ascends along the
list. -/
theorem lex_of_placeAll {key : String → Nat}
    (hkey : left.Pairwise fun m n => key m.id < key n.id)
    (h : placeAll placed left = some order) (hother : Orders placed left other) :
    other = order ∨ List.Lex (· < ·) (order.map key) (other.map key) := by
  induction placed, left using placeAll_induct generalizing order other with
  | done placed hrun =>
    rw [hrun] at h
    cases h
    exact Or.inl hother.perm.eq_nil
  | stuck placed left _ _ hrun =>
    rw [hrun] at h
    cases h
  | place placed front n back _ hfront hrun ih =>
    rw [hrun] at h
    obtain ⟨rest, hrest, rfl⟩ := Option.map_eq_some_iff.1 h
    cases other with
    | nil => exact absurd hother.perm.length_eq (by simp)
    | cons i other =>
      obtain ⟨m, hm, rfl⟩ := List.mem_map.1 (hother.perm.mem_iff.1 List.mem_cons_self)
      have hready := hother.isReady_head hm
      rcases List.mem_append.1 hm with hmfront | hmback
      · -- the ones passed over are not ready
        rw [hfront m hmfront] at hready
        cases hready
      · rcases List.mem_cons.1 hmback with rfl | hmback
        · have hsub := (List.sublist_cons_self m back).append_left front
          exact (ih (hkey.sublist hsub) hrest hother.tail).imp (congrArg _) .cons
        · have hlt := (List.pairwise_append.1 hkey).2.1
          exact Or.inr (.rel ((List.pairwise_cons.1 hlt).1 m hmback))

/-- One of the listed resources is reached from another along
dependencies. -/
def ReachedFrom (nodes : List Node) (j i : {x // x ∈ nodes.map Node.id}) : Prop :=
  Relation.TransGen (DependsOn nodes) i j

/-- Resources that each wait for one of them wait in a circle. -/
theorem circular_of_waiting (hne : left ≠ [])
    (h : ∀ n ∈ left, ∃ j ∈ n.dependsOn, j ∈ left.map Node.id) : Circular left := by
  by_contra hcircular
  have htrans : IsTrans _ (ReachedFrom left) := ⟨fun _ _ _ hab hbc => hbc.trans hab⟩
  have hirrefl : Std.Irrefl (ReachedFrom left) := ⟨fun i hi => hcircular ⟨i, hi⟩⟩
  -- there are finitely many, so without a circle nothing is reached from some
  have hwf : WellFounded (ReachedFrom left) := Finite.wellFounded_of_trans_of_irrefl _
  obtain ⟨m, hm⟩ := List.exists_mem_of_ne_nil left hne
  obtain ⟨⟨i, hi⟩, -, hmin⟩ := hwf.has_min Set.univ ⟨⟨m.id, List.mem_map_of_mem hm⟩, trivial⟩
  obtain ⟨n, hn, rfl⟩ := List.mem_map.1 hi
  obtain ⟨j, hj, hjleft⟩ := h n hn
  exact hmin ⟨j, hjleft⟩ trivial (.single ⟨n, hn, rfl, hj⟩)

/-- **A run that is stuck has come to a circle**, unless a dependency is
neither placed nor left. -/
theorem circular_of_placeAll (h : placeAll placed left = none)
    (hclosed : ∀ i j, DependsOn left i j → j ∈ placed ∨ j ∈ left.map Node.id) :
    Circular left := by
  induction placed, left using placeAll_induct with
  | done placed hrun =>
    rw [hrun] at h
    cases h
  | stuck placed left hne hnone _ =>
    refine circular_of_waiting hne fun n hn => ?_
    have hwaits : ¬ ∀ j ∈ n.dependsOn, j ∈ placed := by
      rw [← isReady_iff, hnone n hn]
      nofun
    push Not at hwaits
    obtain ⟨j, hj, hplaced⟩ := hwaits
    exact ⟨j, hj, (hclosed n.id j ⟨n, hn, rfl, hj⟩).resolve_left hplaced⟩
  | place placed front n back _ _ hrun ih =>
    rw [hrun, Option.map_eq_none_iff] at h
    refine (ih h fun i j hj => ?_).middle
    rcases hclosed i j (dependsOn_middle.2 (Or.inr hj)) with hp | hl
    · exact Or.inl (List.mem_cons_of_mem _ hp)
    · rcases List.mem_cons.1 (map_middle.mem_iff.1 hl) with rfl | hrest
      · exact Or.inl List.mem_cons_self
      · exact Or.inr hrest

/-! ## What an order rules out -/

/-- In an order the dependencies stand earlier. -/
theorem Orders.idxOf_lt (h : Orders [] nodes order) (hij : DependsOn nodes i j) :
    order.idxOf j < order.idxOf i := by
  obtain ⟨front, back, rfl, hi⟩ := List.eq_append_cons_of_mem (h.perm.mem_iff.2 hij.mem)
  have hj : j ∈ front := (h.after front i back rfl j hij).resolve_left List.not_mem_nil
  rw [List.idxOf_append_of_mem hj, List.idxOf_append_of_notMem hi, List.idxOf_cons_self]
  exact Nat.lt_of_lt_of_le (List.idxOf_lt_length_of_mem hj) (Nat.le_add_right _ _)

theorem Orders.not_circular (h : Orders [] nodes order) : ¬ Circular nodes := by
  rintro ⟨i, hi⟩
  have hlt : ∀ k, Relation.TransGen (DependsOn nodes) i k → order.idxOf k < order.idxOf i := by
    intro k hk
    induction hk with
    | single hik => exact h.idxOf_lt hik
    | tail _ hjk ih => exact Nat.lt_trans (h.idxOf_lt hjk) ih
  exact Nat.lt_irrefl _ (hlt i hi)

theorem Orders.not_dangling (h : Orders [] nodes order) : ¬ Dangling nodes := by
  rintro ⟨i, j, hij, hj⟩
  have hlt := Nat.lt_of_lt_of_le (h.idxOf_lt hij) List.idxOf_le_length
  exact hj (h.perm.mem_iff.1 (List.idxOf_lt_length_iff.1 hlt))

/-! ## The outcome -/

/-- The first in lexicographic order of places among the orders of a list. -/
structure FirstOrder (nodes : List Node) (order : List String) : Prop where
  orders : Orders [] nodes order
  first : ∀ other, Orders [] nodes other →
    other = order ∨ List.Lex (· < ·) (positions nodes order) (positions nodes other)

theorem findSome?_missingOf_eq_none (h : nodes.findSome? (missingOf (nodes.map Node.id)) = none)
    (hij : DependsOn nodes i j) : j ∈ nodes.map Node.id := by
  obtain ⟨n, hn, rfl, hj⟩ := hij
  have hnone := List.findSome?_eq_none_iff.1 h n hn
  rw [missingOf, Option.map_eq_none_iff, List.find?_eq_none] at hnone
  exact of_not_not (of_decide_eq_false (Bool.eq_false_iff.2 (hnone j hj)))

theorem findSome?_missingOf_eq_some
    (h : nodes.findSome? (missingOf (nodes.map Node.id)) = some (i, j)) :
    DependsOn nodes i j ∧ j ∉ nodes.map Node.id := by
  obtain ⟨n, hn, hsome⟩ := List.exists_of_findSome?_eq_some h
  obtain ⟨d, hd, heq⟩ := Option.map_eq_some_iff.1 hsome
  cases heq
  exact ⟨⟨n, hn, rfl, List.mem_of_find?_eq_some hd⟩, by simpa using List.find?_some hd⟩

/-- Where ids are distinct, their places ascend along the list. -/
theorem pairwise_idxOf (h : (nodes.map Node.id).Nodup) :
    nodes.Pairwise fun m n =>
      (nodes.map Node.id).idxOf m.id < (nodes.map Node.id).idxOf n.id := by
  have hplace : ∀ k (hk : k < nodes.length), (nodes.map Node.id).idxOf nodes[k].id = k := by
    intro k hk
    have := h.idxOf_getElem k (by simpa using hk)
    rwa [List.getElem_map] at this
  refine List.pairwise_iff_getElem.2 fun k l hk hl hkl => ?_
  rwa [hplace k hk, hplace l hl]

/-- **What becomes of a list with distinct ids.** A dependency is missing
and named, or there is a circle, or the first of all orders is found. -/
theorem orderOf_cases (hdistinct : (nodes.map Node.id).Nodup) :
    (∃ i j, orderOf nodes = .error (.graph (.missingDependency i j)) ∧ DependsOn nodes i j ∧
      j ∉ nodes.map Node.id) ∨
    (orderOf nodes = .error (.graph .cycle) ∧ ¬ Dangling nodes ∧ Circular nodes) ∨
    (∃ order, orderOf nodes = .ok order ∧ FirstOrder nodes order) := by
  unfold orderOf
  cases hmissing : nodes.findSome? (missingOf (nodes.map Node.id)) with
  | some missing => exact Or.inl ⟨_, _, rfl, findSome?_missingOf_eq_some hmissing⟩
  | none =>
    have hclosed : ∀ i j, DependsOn nodes i j → j ∈ nodes.map Node.id :=
      fun i j hij => findSome?_missingOf_eq_none hmissing hij
    cases hplace : placeAll [] nodes with
    | none =>
      refine Or.inr (Or.inl ⟨rfl, ?_, ?_⟩)
      · rintro ⟨i, j, hij, hj⟩
        exact hj (hclosed i j hij)
      · exact circular_of_placeAll hplace fun i j hij => Or.inr (hclosed i j hij)
    | some order =>
      have horders := orders_of_placeAll hdistinct hplace
      exact Or.inr (Or.inr ⟨order, rfl, horders, fun other hother =>
        lex_of_placeAll (pairwise_idxOf hdistinct) hplace hother⟩)

end Graph

end ClusterBlueprint
