import ClusterBlueprint.Fault
import ClusterBlueprint.Graph.Node
/-!
# Graph — an order that follows the dependencies

The order is built from the front: of the resources that are left, the
first one in the list whose dependencies have all been placed comes next.
When none is ready although some are left, the dependencies run in a
circle.
-/

namespace ClusterBlueprint

namespace Graph

/-- The first dependency of a resource that is not among the ids. -/
def missingOf (ids : List String) (n : Node) : Option (String × String) :=
  (n.dependsOn.toList.find? fun d => d ∉ ids).map fun d => (n.id, d)

/-- Whether every dependency of a resource has been placed. -/
def isReady (placed : List String) (n : Node) : Bool :=
  n.dependsOn.toList.all fun d => d ∈ placed

/-- Takes the first item that satisfies `p` out of a list. -/
def extractFirst {α : Type} (p : α → Bool) : List α → Option (α × List α)
  | [] => none
  | x :: xs =>
    if p x then some (x, xs)
    else (extractFirst p xs).map fun (y, ys) => (y, x :: ys)

/-- An extracted item leaves a list that is shorter by one. -/
theorem length_of_extractFirst {α : Type} {p : α → Bool} {xs ys : List α} {y : α}
    (h : extractFirst p xs = some (y, ys)) : xs.length = ys.length + 1 := by
  induction xs generalizing ys with
  | nil => simp [extractFirst] at h
  | cons x xs ih =>
    simp only [extractFirst] at h
    split at h
    · simp only [Option.some.injEq, Prod.mk.injEq] at h
      simp [h.2]
    · obtain ⟨⟨z, zs⟩, hz, heq⟩ := Option.map_eq_some_iff.1 h
      simp only [Prod.mk.injEq] at heq
      obtain ⟨rfl, rfl⟩ := heq
      simp [ih hz]

/-- The ids of the resources that are left, in the order in which they
become ready; `none` if some never do. -/
def placeAll (placed : List String) (left : List Node) : Option (List String) :=
  match h : extractFirst (isReady placed) left with
  | some (n, rest) =>
    have := length_of_extractFirst h
    (placeAll (n.id :: placed) rest).map (n.id :: ·)
  | none => if left.isEmpty then some [] else none
termination_by left.length

/-- The ids of a list of resources in an order in which each follows its
dependencies, earlier ones in the list first. -/
def orderOf (nodes : List Node) : Except Fault (List String) :=
  match nodes.findSome? (missingOf (nodes.map Node.id)) with
  | some (id, dependency) => .error (.graph (.missingDependency id dependency))
  | none =>
    match placeAll [] nodes with
    | some order => .ok order
    | none => .error (.graph .cycle)

end Graph

end ClusterBlueprint
