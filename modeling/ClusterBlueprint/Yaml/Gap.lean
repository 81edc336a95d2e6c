import ClusterBlueprint.Yaml.Cursor
/-!
# Yaml — what stands between two words of a scalar

A scalar without a fixed layout is folded: the blanks and breaks between two
of its words stand for less than they are. Blanks inside a line are kept. A
single line feed is one blank; of more breaks after a line feed the further
ones are kept. A separator of lines or paragraphs is kept with all the
breaks after it. Blanks at the start or the end of a line are lost.
-/

namespace ClusterBlueprint

namespace Yaml

/-- What stands between two words: blanks of one line, or breaks. -/
inductive Gap where
  | blanks (cs : List Char)
  | breaks (first : Char) (further : List Char)

namespace Gap

/-- Nothing between two words. -/
def empty : Gap := blanks []

/-- Whether the second word stands on a later line. -/
def crosses : Gap → Bool
  | blanks _ => false
  | breaks _ _ => true

/-- What the gap reads as. -/
def text : Gap → List Char
  | blanks cs => cs
  | breaks first further =>
    if first = '\n' then if further.isEmpty then [' '] else further
    else first :: further

/-- The breaks from the start of a line up to the next word. A tab must not
stand to the left of the margin. -/
def readBreaks? (margin : Nat) (c : Cursor) : Option (List Char × Cursor) :=
  if ((c.spanWhile isBlank).1.take (margin - c.column)).contains '\t' then none
  else
    match h : (c.spanWhile isBlank).2.break? with
    | some (x, next) =>
      have := Nat.lt_of_lt_of_le (Cursor.length_of_break? h) (c.length_spanWhile_le isBlank)
      (readBreaks? margin next).map fun (further, c) => (x :: further, c)
    | none => some ([], (c.spanWhile isBlank).2)
termination_by c.rest.length

/-- The gap at a place, and the place after it. -/
def read? (margin : Nat) (c : Cursor) : Option (Gap × Cursor) :=
  match (c.spanWhile isBlank).2.break? with
  | some (x, next) =>
    (readBreaks? margin next).map fun (further, c) => (breaks x further, c)
  | none => some (blanks (c.spanWhile isBlank).1, (c.spanWhile isBlank).2)

/-- Breaks put nothing in front of a place. -/
theorem length_of_readBreaks? {margin : Nat} {c next : Cursor} {xs : List Char}
    (h : readBreaks? margin c = some (xs, next)) : next.rest.length ≤ c.rest.length := by
  fun_induction readBreaks? margin c generalizing xs next with
  | case1 => simp at h
  | case2 c _ x there hbreak hlt ih =>
    obtain ⟨⟨ys, after⟩, hafter, heq⟩ := Option.map_eq_some_iff.1 h
    simp only [Prod.mk.injEq] at heq
    obtain ⟨-, rfl⟩ := heq
    have := ih hafter
    omega
  | case3 c _ hbreak =>
    simp only [Option.some.injEq, Prod.mk.injEq] at h
    obtain ⟨-, rfl⟩ := h
    exact c.length_spanWhile_le isBlank

/-- A gap puts nothing in front of a place. -/
theorem length_of_read? {margin : Nat} {c next : Cursor} {g : Gap}
    (h : read? margin c = some (g, next)) : next.rest.length ≤ c.rest.length := by
  have hspan := c.length_spanWhile_le isBlank
  unfold read? at h
  split at h
  · next hbreak =>
    obtain ⟨⟨ys, after⟩, hafter, heq⟩ := Option.map_eq_some_iff.1 h
    simp only [Prod.mk.injEq] at heq
    obtain ⟨-, rfl⟩ := heq
    have := Cursor.length_of_break? hbreak
    have := length_of_readBreaks? hafter
    omega
  · simp only [Option.some.injEq, Prod.mk.injEq] at h
    obtain ⟨-, rfl⟩ := h
    exact hspan

/-- A gap that begins with a white character takes it off the text. -/
theorem length_of_read?_of_white {margin : Nat} {c next : Cursor} {g : Gap} {x : Char}
    (hx : c.char? = some x) (hwhite : isWhite x = true) (h : read? margin c = some (g, next)) :
    next.rest.length < c.rest.length := by
  obtain ⟨rest, hrest⟩ : ∃ rest, c.rest = x :: rest := List.head?_eq_some_iff.1 hx
  unfold read? at h
  split at h
  · next hbreak =>
    obtain ⟨⟨ys, after⟩, hafter, heq⟩ := Option.map_eq_some_iff.1 h
    simp only [Prod.mk.injEq] at heq
    obtain ⟨-, rfl⟩ := heq
    have := Cursor.length_of_break? hbreak
    have := length_of_readBreaks? hafter
    have := c.length_spanWhile_le isBlank
    omega
  · next hbreak =>
    simp only [Option.some.injEq, Prod.mk.injEq] at h
    obtain ⟨-, rfl⟩ := h
    by_cases hblank : isBlank x = true
    · apply Cursor.length_advance_lt
      · simp [hrest, hblank]
      · simp [hrest]
    · exfalso
      have hstay : (c.spanWhile isBlank).2 = c := by
        simp [Cursor.spanWhile, hrest, hblank, Cursor.advance]
        simp [← hrest]
      rw [hstay] at hbreak
      simp only [isWhite, hblank, Bool.false_or] at hwhite
      unfold Cursor.break? at hbreak
      rw [hrest] at hbreak
      split at hbreak
      · simp at hbreak
      · next y _ _ heq =>
        simp only [List.cons.injEq] at heq
        obtain ⟨rfl, -⟩ := heq
        split at hbreak
        · simp at hbreak
        · simp at hbreak
      · simp_all

end Gap

end Yaml

end ClusterBlueprint
