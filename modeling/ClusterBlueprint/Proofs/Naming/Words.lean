import Mathlib.Data.List.Basic
/-!
# Naming — words between hyphens

A name is words joined by hyphens, but its parts may hold hyphens of their
own, so two ways of putting a name together can give one text. This file
reads a text as its words. The words of a name are the words of its parts
one after the other (`words_append_hyphen`), and everything about names
that meet is a matter of lists of words from there on.
-/

namespace ClusterBlueprint

namespace Naming

/-- The words of a text, empty ones between two hyphens included. -/
def words (cs : List Char) : List (List Char) := cs.splitOn '-'

/-- **Words split at a hyphen.** -/
theorem words_append_hyphen (cs ds : List Char) :
    words (cs ++ '-' :: ds) = words cs ++ words ds :=
  List.splitOn_append_cons_self cs ds

/-- A hyphen at the front closes an empty word. -/
theorem words_hyphen (ds : List Char) : words ('-' :: ds) = [] :: words ds :=
  words_append_hyphen [] ds

/-- A text without hyphens is one word. -/
theorem words_of_not_mem {cs : List Char} (h : '-' ∉ cs) : words cs = [cs] :=
  List.splitOn_eq_singleton h

/-- A character that is no hyphen joins the first word. -/
theorem words_cons {c : Char} (h : c ≠ '-') (cs : List Char) :
    words (c :: cs) = (words cs).modifyHead (c :: ·) := by
  rw [words, List.splitOn_cons_eq_if_modifyHead]
  simp [h, words]

theorem words_ne_nil (cs : List Char) : words cs ≠ [] := List.splitOn_ne_nil '-' cs

/-- A text is determined by its words. -/
theorem words_injective {cs ds : List Char} (h : words cs = words ds) : cs = ds := by
  calc cs = ['-'].intercalate (words cs) := (List.intercalate_splitOn '-').symm
    _ = ['-'].intercalate (words ds) := by rw [h]
    _ = ds := List.intercalate_splitOn '-'

/-- **A text whose words end another one ends that text.** -/
theorem suffix_of_words_suffix {cs ds : List Char} (h : words ds <:+ words cs) : ds <:+ cs := by
  induction cs with
  | nil =>
    have hpos : 0 < (words ds).length := List.length_pos_iff.2 (words_ne_nil ds)
    have heq : words ds = words [] := h.eq_of_length (Nat.le_antisymm h.length_le hpos)
    exact words_injective heq ▸ List.suffix_rfl
  | cons c cs ih =>
    by_cases hc : c = '-'
    · subst hc
      rw [words_hyphen] at h
      rcases List.suffix_cons_iff.1 h with heq | hsuf
      · exact words_injective (heq.trans (words_hyphen cs).symm) ▸ List.suffix_rfl
      · exact (ih hsuf).trans (List.suffix_cons _ _)
    · obtain ⟨w, ws, hw⟩ := List.exists_cons_of_ne_nil (words_ne_nil cs)
      have hcons : words (c :: cs) = (c :: w) :: ws := by rw [words_cons hc, hw]; rfl
      rw [hcons] at h
      rcases List.suffix_cons_iff.1 h with heq | hsuf
      · exact words_injective (heq.trans hcons.symm) ▸ List.suffix_rfl
      · -- the tail of the words is left as it was by the character in front
        refine (ih ?_).trans (List.suffix_cons _ _)
        exact hsuf.trans (hw ▸ List.suffix_cons w ws)

end Naming

end ClusterBlueprint
