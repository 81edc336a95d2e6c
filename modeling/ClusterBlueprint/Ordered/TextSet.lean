/-!
# Ordered — sets of texts

The dependencies of a resource and the names it refers to are sets of
texts, shown in ascending order. A set is its strictly ascending list, so
two sets with the same members are the same value (`TextSet.ext_mem`).
The order of texts is that of their code points, which is also the order
of their UTF-8 bytes.
-/

namespace ClusterBlueprint

/-- A finite set of texts, as its strictly ascending list. -/
structure TextSet where
  toList : List String
  ascending : toList.Pairwise (· < ·)
deriving DecidableEq

namespace TextSet

instance : Membership String TextSet := ⟨fun s x => x ∈ s.toList⟩

theorem mem_def {s : TextSet} {x : String} : x ∈ s ↔ x ∈ s.toList := Iff.rfl

instance (x : String) (s : TextSet) : Decidable (x ∈ s) :=
  inferInstanceAs (Decidable (x ∈ s.toList))

/-- A set lists each member once. -/
theorem nodup_toList (s : TextSet) : s.toList.Nodup := s.ascending.imp fun h => String.ne_of_lt h

/-- The set without members. -/
def empty : TextSet := ⟨[], .nil⟩

/-- Whether the set has no members. -/
def isEmpty (s : TextSet) : Bool := s.toList.isEmpty

/-- Puts a text in its place in an ascending list, unless it is there. -/
def insertText (x : String) : List String → List String
  | [] => [x]
  | y :: ys => if x < y then x :: y :: ys else if x = y then y :: ys else y :: insertText x ys

/-- Inserting adds the text and nothing else. -/
theorem mem_insertText {x z : String} {ys : List String} :
    z ∈ insertText x ys ↔ z = x ∨ z ∈ ys := by
  induction ys with
  | nil => simp [insertText]
  | cons y ys ih =>
    simp only [insertText]
    split
    · simp
    · split
      · next hxy => subst hxy; simp
      · simp [ih, or_left_comm]

/-- Of two different texts one comes first. -/
theorem lt_of_not_lt_of_ne {x y : String} (hlt : ¬ x < y) (hne : x ≠ y) : y < x := by
  exact Decidable.byContradiction fun h =>
    hne (String.le_antisymm (String.not_lt.1 h) (String.not_lt.1 hlt))

/-- Inserting keeps a list ascending. -/
theorem pairwise_insertText {x : String} {ys : List String} (h : ys.Pairwise (· < ·)) :
    (insertText x ys).Pairwise (· < ·) := by
  induction ys with
  | nil => simp [insertText]
  | cons y ys ih =>
    obtain ⟨hy, hys⟩ := List.pairwise_cons.1 h
    simp only [insertText]
    split
    · next hxy =>
      refine List.pairwise_cons.2 ⟨fun z hz => ?_, h⟩
      rcases List.mem_cons.1 hz with rfl | hz
      · exact hxy
      · exact String.lt_trans hxy (hy z hz)
    · split
      · exact h
      · next hnlt hne =>
        refine List.pairwise_cons.2 ⟨fun z hz => ?_, ih hys⟩
        rcases mem_insertText.1 hz with rfl | hz
        · exact lt_of_not_lt_of_ne hnlt hne
        · exact hy z hz

/-- The set with one more member. -/
def insert (x : String) (s : TextSet) : TextSet :=
  ⟨insertText x s.toList, pairwise_insertText s.ascending⟩

/-- The set of the texts of a list, in any order and with repeats. -/
def ofList (xs : List String) : TextSet := xs.foldr insert empty

@[simp] theorem not_mem_empty {x : String} : x ∉ empty := by simp [mem_def, empty]

@[simp] theorem mem_insert {x z : String} {s : TextSet} : z ∈ s.insert x ↔ z = x ∨ z ∈ s :=
  mem_insertText

@[simp] theorem mem_ofList {xs : List String} {z : String} : z ∈ ofList xs ↔ z ∈ xs := by
  induction xs with
  | nil => simp [ofList]
  | cons x xs ih =>
    have : ofList (x :: xs) = (ofList xs).insert x := rfl
    simp [this, ih]

/-- Ascending lists with the same members are equal. -/
theorem eq_of_pairwise_of_mem {xs ys : List String} (hx : xs.Pairwise (· < ·))
    (hy : ys.Pairwise (· < ·)) (h : ∀ z, z ∈ xs ↔ z ∈ ys) : xs = ys := by
  induction xs generalizing ys with
  | nil =>
    cases ys with
    | nil => rfl
    | cons y ys => exact absurd ((h y).2 (by simp)) (by simp)
  | cons x xs ih =>
    cases ys with
    | nil => exact absurd ((h x).1 (by simp)) (by simp)
    | cons y ys =>
      obtain ⟨hx1, hx2⟩ := List.pairwise_cons.1 hx
      obtain ⟨hy1, hy2⟩ := List.pairwise_cons.1 hy
      have hxy : x = y := by
        rcases List.mem_cons.1 ((h x).1 (by simp)) with e | hxm
        · exact e
        · rcases List.mem_cons.1 ((h y).2 (by simp)) with e | hym
          · exact e.symm
          · exact absurd (String.lt_trans (hx1 y hym) (hy1 x hxm)) (String.lt_irrefl x)
      subst hxy
      congr 1
      refine ih hx2 hy2 fun z => ⟨fun hz => ?_, fun hz => ?_⟩
      · rcases List.mem_cons.1 ((h z).1 (by simp [hz])) with e | hzm
        · exact absurd (e ▸ hx1 z hz) (String.lt_irrefl _)
        · exact hzm
      · rcases List.mem_cons.1 ((h z).2 (by simp [hz])) with e | hzm
        · exact absurd (e ▸ hy1 z hz) (String.lt_irrefl _)
        · exact hzm

/-- **A set is determined by its members.** -/
theorem ext_mem {s t : TextSet} (h : ∀ z, z ∈ s ↔ z ∈ t) : s = t := by
  obtain ⟨xs, hx⟩ := s
  obtain ⟨ys, hy⟩ := t
  have : xs = ys := eq_of_pairwise_of_mem hx hy h
  subst this
  rfl

end TextSet

end ClusterBlueprint
