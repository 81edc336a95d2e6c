import ClusterBlueprint.Power
/-!
# Password — fair choices from random words

A fresh password is drawn from a stream of random words of 64 bits. A
choice among `n` items multiplies a word by `n` and takes the upper half of
the product; words whose lower half falls past the last full multiple are
passed over, so each item is as likely as the others. The stream is a list
that gets shorter with each word, and a choice fails when the list ends. A
place that is chosen is below the number of items, so looking it up and
exchanging it, which could fail as well, never do.
-/

namespace ClusterBlueprint

namespace Choice

/-- What is drawn from a list of words, and the words that are left;
`none` if there are not enough. -/
abbrev Draws (α : Type) := StateT (List UInt64) Option α

/-- The greatest lower half that counts, for a choice among `n` items with
words of `bits` bits: `n`, moved up until it fills a word, less one. -/
def zone (bits n : Nat) : Nat := n * 2 ^ (bits - (Nat.log2 n + 1)) - 1

/-- A number below `n`, from the first word of the list that counts. A word
of 64 bits gives its lower `bits` bits. -/
def among (bits n : Nat) : List UInt64 → Option (Nat × List UInt64)
  | [] => none
  | w :: ws =>
    let product := (w.toNat % 2 ^ bits) * n
    if product % 2 ^ bits ≤ zone bits n then some (product / 2 ^ bits, ws) else among bits n ws

/-- A choice is below the number of items. -/
theorem lt_of_among {bits n i : Nat} {ws rest : List UInt64} (hn : 0 < n)
    (h : among bits n ws = some (i, rest)) : i < n := by
  induction ws with
  | nil => simp [among] at h
  | cons w ws ih =>
    simp only [among] at h
    split at h
    · simp only [Option.some.injEq, Prod.mk.injEq] at h
      rw [← h.1, Nat.div_lt_iff_lt_mul (Nat.two_pow_pos _), Nat.mul_comm n]
      exact Nat.mul_lt_mul_of_pos_right (Nat.mod_lt _ (Nat.two_pow_pos _)) hn
    · exact ih h

/-- One item of a list. -/
def item (items : List Char) : Draws Char := do
  let i ← (among 64 items.length : Draws Nat)
  match items[i]? with
  | some c => pure c
  | none => failure

/-- How much of a word a place among `n` is chosen with: half of it, unless
`n` takes more. -/
def placeBits (n : Nat) : Nat := if n < 2 ^ 32 then 32 else 64

/-- Exchanges two items, both of which have to be there. -/
def exchange (cs : Array Char) (i j : Nat) : Draws (Array Char) :=
  if h : i < cs.size ∧ j < cs.size then pure (cs.swap i j h.1 h.2) else failure

/-- Exchanges each of the items from `i` down to the second with one chosen
among it and those before it. -/
def shuffleFrom : Nat → Array Char → Draws (Array Char)
  | 0, cs => pure cs
  | i + 1, cs => do
    let j ← (among (placeBits (i + 2)) (i + 2) : Draws Nat)
    let cs ← exchange cs (i + 1) j
    shuffleFrom i cs

/-- The items in a random order. -/
def shuffle (cs : Array Char) : Draws (Array Char) := shuffleFrom (cs.size - 1) cs

end Choice

end ClusterBlueprint
