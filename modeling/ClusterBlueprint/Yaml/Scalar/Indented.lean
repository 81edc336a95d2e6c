import ClusterBlueprint.Yaml.Cursor
/-!
# Yaml — scalars that their indentation marks off

A bar or a greater-than sign announces a text in the lines below: all lines
to the right of the margin, without their indentation. After the bar the
breaks are kept, after the other sign they are folded except around lines
that begin with a blank. The announcement may say how far the lines are
indented, and what becomes of the breaks at the end of the text.
-/

namespace ClusterBlueprint

namespace Yaml

/-- What becomes of the breaks at the end of a text: all are taken off, all
but the first, or none. -/
inductive Chomp where
  | strip
  | clip
  | keep
deriving DecidableEq

/-- The signs that ask for one of the two unusual ends. -/
def Chomp.ofChar? : Char → Option Chomp
  | '-' => some .strip
  | '+' => some .keep
  | _ => none

/-- An indentation given by a digit. -/
def indentOf? (c : Char) : Option Nat := (digitValue? c).filter (0 < ·)
where
  /-- The value of a decimal digit. -/
  digitValue? (c : Char) : Option Nat :=
    if c.isDigit then some (c.toNat - '0'.toNat) else none

/-- What an announcement says about the end and about the indentation,
which is zero where it says nothing. The two come in either order. -/
def announced? : List Char → Option (Chomp × Nat)
  | [] => some (.clip, 0)
  | [x] =>
    match Chomp.ofChar? x with
    | some chomp => some (chomp, 0)
    | none => (indentOf? x).map fun n => (.clip, n)
  | [x, y] =>
    match Chomp.ofChar? x, Chomp.ofChar? y with
    | some chomp, none => (indentOf? y).map fun n => (chomp, n)
    | none, some chomp => (indentOf? x).map fun n => (chomp, n)
    | _, _ => none
  | _ => none

/-- What stands between a line and the next one with something in it:
the break that ended it, further breaks, and whether the line began with a
blank. Before the first line there is no such break. -/
structure Joint where
  first : Option Char
  further : List Char
  afterBlank : Bool

namespace Joint

/-- What the joint reads as, before a line that begins with a blank or
does not. -/
def text (j : Joint) (folded beforeBlank : Bool) : List Char :=
  if folded && j.first = some '\n' && !j.afterBlank && !beforeBlank then
    if j.further.isEmpty then [' '] else j.further
  else j.first.toList ++ j.further

/-- What stays of the joint after the last line. -/
def tail (j : Joint) : Chomp → List Char
  | .strip => []
  | .clip => j.first.toList
  | .keep => j.first.toList ++ j.further

end Joint

/-- The place after the blanks of an indentation; an indentation of zero is
not known yet, and all blanks belong to it. -/
def skipIndent (indent : Nat) (c : Cursor) : Cursor :=
  let blanks := (c.rest.takeWhile (· = ' ')).length
  c.advance (if indent = 0 then blanks else min blanks (indent - c.column))

/-- The breaks of lines with nothing in them, the largest column that one of
them or the next line starts at, and the place there. A tab must not stand
in the indentation. -/
def readEmptyLines? (indent : Nat) (c : Cursor) : Option (List Char × Nat × Cursor) :=
  if (indent = 0 ∨ (skipIndent indent c).column < indent)
      ∧ (skipIndent indent c).char? = some '\t' then none
  else
    match h : (skipIndent indent c).break? with
    | some (x, next) =>
      have := Nat.lt_of_lt_of_le (Cursor.length_of_break? h) (c.length_advance_le _)
      (readEmptyLines? indent next).map fun (breaks, column, c') =>
        (x :: breaks, max (skipIndent indent c).column column, c')
    | none => some ([], (skipIndent indent c).column, skipIndent indent c)
termination_by c.rest.length

/-- Empty lines put nothing in front of a place. -/
theorem length_of_readEmptyLines? {indent column : Nat} {c next : Cursor} {xs : List Char}
    (h : readEmptyLines? indent c = some (xs, column, next)) :
    next.rest.length ≤ c.rest.length := by
  fun_induction readEmptyLines? indent c generalizing xs column next with
  | case1 => simp at h
  | case2 c _ x there hbreak hlt ih =>
    obtain ⟨⟨ys, k, after⟩, hafter, heq⟩ := Option.map_eq_some_iff.1 h
    simp only [Prod.mk.injEq] at heq
    obtain ⟨-, -, rfl⟩ := heq
    have := ih hafter
    omega
  | case3 c _ hbreak =>
    simp only [Option.some.injEq, Prod.mk.injEq] at h
    obtain ⟨-, -, rfl⟩ := h
    exact c.length_advance_le _

/-- The lines from a place on that stand at an indentation, after a joint;
the joint after the last of them, and the place there. -/
def readLines? (folded : Bool) (indent : Nat) (acc : List Char) (joint : Joint) (c : Cursor) :
    Option (List Char × Joint × Cursor) :=
  if c.column = indent ∧ c.rest ≠ [] then
    let startsBlank := c.char?.any isBlank
    let text := (joint.text folded startsBlank ++ (c.spanWhile (!isBreak ·)).1).reverse ++ acc
    match h : (c.spanWhile (!isBreak ·)).2.break? with
    | some (x, line) =>
      match hline : readEmptyLines? indent line with
      | none => none
      | some (further, _, next) =>
        have := Cursor.length_of_break? h
        have := c.length_spanWhile_le (!isBreak ·)
        have := length_of_readEmptyLines? hline
        readLines? folded indent text ⟨some x, further, startsBlank⟩ next
    | none => some (text.reverse, ⟨none, [], startsBlank⟩, (c.spanWhile (!isBreak ·)).2)
  else some (acc.reverse, joint, c)
termination_by c.rest.length

/-- The text announced at a place after its sign, and the place after it.
The margin is the least column that its lines may start at. -/
def readIndented? (folded : Bool) (margin : Nat) (c : Cursor) : Option (List Char × Cursor) := do
  let (signs, c) := c.spanWhile fun x => x = '+' || x = '-' || x.isDigit
  let (chomp, announced) ← announced? signs
  let c ← c.lineEnd?
  let given := if announced = 0 then 0 else (margin - 1) + announced
  let (breaks, column, c) ← readEmptyLines? given c.skipBreak
  let indent := if announced = 0 then max column (max margin 1) else given
  let (text, joint, c) ← readLines? folded indent [] ⟨none, breaks, false⟩ c
  pure (text ++ joint.tail chomp, c)

end Yaml

end ClusterBlueprint
