import ClusterBlueprint.Proofs.Password.Fresh
/-!
# Password — when there is a fresh password

A fresh password is drawn from a supply of words, and drawing could fail in
three ways: the supply runs out, a place is looked up that a list does not
have, or a place is exchanged that is not there. Only the first happens
(`Password.needsWords_fresh`). Places are below the number of items they are
chosen among (`Choice.lt_of_among`), the sources have items, and a shuffle
goes through places that are there. So drawing takes words from the front of
the supply, whatever stands behind them, and ends as soon as enough of them
count.
-/

namespace ClusterBlueprint

namespace Choice

variable {α β : Type} {words rest : List UInt64}

/-- **A draw that fails for want of words only.** It leaves the words behind
those that it takes, and ends when enough words count, as zeros do. -/
structure NeedsWords (x : Draws α) : Prop where
  left : ∀ {words a rest}, x.run words = some (a, rest) →
    ∀ more, x.run (words ++ more) = some (a, rest ++ more)
  ends : ∀ words, ∃ count a rest, x.run (words ++ List.replicate count 0) = some (a, rest)

theorem needsWords_pure (a : α) : NeedsWords (pure a : Draws α) where
  left h more := by
    obtain ⟨rfl, rfl⟩ := run_pure_eq_some.1 h
    exact run_pure_eq_some.2 ⟨rfl, rfl⟩
  ends words := ⟨0, a, words ++ [], run_pure_eq_some.2 ⟨rfl, rfl⟩⟩

/-- Two draws need words only when the first does, and the second after all
that the first can draw. -/
theorem NeedsWords.bind {x : Draws α} {f : α → Draws β} (hx : NeedsWords x)
    (hf : ∀ {words a rest}, x.run words = some (a, rest) → NeedsWords (f a)) :
    NeedsWords (x >>= f) where
  left h more := by
    obtain ⟨a, left, ha, h⟩ := run_bind_eq_some.1 h
    exact run_bind_eq_some.2 ⟨a, left ++ more, hx.left ha more, (hf ha).left h more⟩
  ends words := by
    obtain ⟨count, a, rest, ha⟩ := hx.ends words
    obtain ⟨more, b, rest', hb⟩ := (hf ha).ends rest
    refine ⟨count + more, b, rest', run_bind_eq_some.2 ⟨a, rest ++ List.replicate more 0, ?_, hb⟩⟩
    rw [← List.replicate_append_replicate, ← List.append_assoc]
    exact hx.left ha _

/-- **A choice needs words only**: it passes over those that do not count,
and the first zero counts. -/
theorem needsWords_among (bits n : Nat) : NeedsWords (among bits n : Draws Nat) where
  left {words a rest} h more := by
    replace h : among bits n words = some (a, rest) := h
    change among bits n (words ++ more) = some (a, rest ++ more)
    induction words with
    | nil => cases h
    | cons w ws ih =>
      rw [List.cons_append, among]
      rw [among] at h
      split at h
      · next hcounts =>
        cases h
        exact if_pos hcounts
      · next hpassed =>
        rw [if_neg hpassed]
        exact ih h
  ends words := by
    refine ⟨1, ?_⟩
    change ∃ a rest, among bits n (words ++ [0]) = some (a, rest)
    induction words with
    | nil => exact ⟨_, [], if_pos (by simp)⟩
    | cons w ws ih =>
      rw [List.cons_append, among]
      split
      · exact ⟨_, _, rfl⟩
      · exact ih

/-- An item is looked up at a place that the list has. -/
theorem needsWords_item {items : List Char} (h : items ≠ []) : NeedsWords (item items) := by
  refine (needsWords_among 64 items.length).bind fun {words i rest} hi => ?_
  have hlt : i < items.length := lt_of_among (List.length_pos_iff.2 h) hi
  rw [List.getElem?_eq_getElem hlt]
  exact needsWords_pure _

/-- A shuffle exchanges places that the array has. -/
theorem needsWords_shuffleFrom {i : Nat} {cs : Array Char} (h : i ≤ cs.size - 1) :
    NeedsWords (shuffleFrom i cs) := by
  induction i generalizing cs with
  | zero => exact needsWords_pure cs
  | succ i ih =>
    refine (needsWords_among _ _).bind fun {words j rest} hj => ?_
    have hlt : j < i + 2 := lt_of_among (Nat.succ_pos _) hj
    have hexchange : exchange cs (i + 1) j = pure (cs.swap (i + 1) j (by omega) (by omega)) :=
      dif_pos ⟨by omega, by omega⟩
    rw [hexchange, pure_bind]
    exact ih (by rw [Array.size_swap]; omega)

/-- Draws one after the other need words only when each of them does. -/
theorem needsWords_mapM {f : α → Draws β} {as : List α} (h : ∀ a ∈ as, NeedsWords (f a)) :
    NeedsWords (as.mapM f) := by
  induction as with
  | nil => exact needsWords_pure []
  | cons a as ih =>
    obtain ⟨ha, has⟩ := List.forall_mem_cons.1 h
    rw [List.mapM_cons]
    exact ha.bind fun _ => (ih has).bind fun _ => needsWords_pure _

end Choice

namespace Password

open Choice

/-- Every source has items. -/
theorem ne_nil_of_mem_sources {n : Nat} {items : List Char} (h : items ∈ sources n) :
    items ≠ [] := by
  have hclasses : ∀ items ∈ classes, items ≠ [] := by decide
  rcases List.mem_append.1 h with hclass | hall
  · exact hclasses items (List.mem_of_mem_take hclass)
  · exact List.eq_of_mem_replicate hall ▸ by decide

/-- **A fresh password fails for want of words only**, at every length. -/
theorem needsWords_fresh (n : Nat) : NeedsWords (fresh n) :=
  (needsWords_mapM fun _ hitems => needsWords_item (ne_nil_of_mem_sources hitems)).bind fun _ =>
    (needsWords_shuffleFrom (Nat.le_refl _)).bind fun _ => needsWords_pure _

end Password

end ClusterBlueprint
