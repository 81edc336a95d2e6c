/-!
# Yaml — places in a text

YAML is laid out in lines and columns, so a reader needs to know where it
stands. A cursor is a place in a text: the characters after it, and the line
and column of the first of them. It also counts all characters before it,
since a key must not be far from its colon.

Five characters break a line. The break after a carriage return takes a
line feed with it, and the three that control characters make all read as a
line feed; the separators of lines and of paragraphs read as themselves.
-/

namespace ClusterBlueprint

namespace Yaml

/-- A blank inside a line. -/
def isBlank (c : Char) : Bool := c = ' ' || c = '\t'

/-- A character that ends a line. -/
def isBreak (c : Char) : Bool :=
  c = '\n' || c = '\x0D' || c = '\u0085' || c = '\u2028' || c = '\u2029'

/-- A blank or the end of a line. -/
def isWhite (c : Char) : Bool := isBlank c || isBreak c

/-- Whether a word ends here: at a white character or with the text. -/
def endsWord (cs : List Char) : Bool := cs.head?.all isWhite

/-- The mark that may stand at the start of a text of Unicode. -/
def byteOrderMark : Char := '\uFEFF'

/-- The marks with a part in flow collections. -/
def isFlowMark (c : Char) : Bool := c ∈ [',', '[', ']', '{', '}']

/-- The characters of the names of anchors and directives. -/
def isNameChar (c : Char) : Bool := c.isAlphanum || c = '_' || c = '-'

/-- The characters that a text may hold. Of the controls these are the tab,
the line feed, the carriage return and the next line. -/
def isReadable (c : Char) : Bool :=
  let n := c.toNat
  n == 0x09 || n == 0x0A || n == 0x0D || (0x20 ≤ n && n ≤ 0x7E) || n == 0x85
    || (0xA0 ≤ n && n ≤ 0xFFFD) || 0x10000 ≤ n

/-- A place in a text: how many characters, and lines, are before it, how
many characters of its own line, and what follows. -/
structure Cursor where
  index : Nat
  line : Nat
  column : Nat
  rest : List Char

namespace Cursor

/-- The start of a text. -/
def start (cs : List Char) : Cursor := ⟨0, 0, 0, cs⟩

/-- The character at the place, if it is not the end. -/
def char? (c : Cursor) : Option Char := c.rest.head?

/-- The place after `n` more characters of the same line. -/
def advance (c : Cursor) (n : Nat) : Cursor :=
  ⟨c.index + n, c.line, c.column + n, c.rest.drop n⟩

/-- The characters up to the first without a property that no break has,
and the place after them. -/
def spanWhile (p : Char → Bool) (c : Cursor) : List Char × Cursor :=
  let run := c.rest.takeWhile p
  (run, c.advance run.length)

/-- The place after the characters with a property that no break has. -/
def skipWhile (p : Char → Bool) (c : Cursor) : Cursor := (c.spanWhile p).2

/-- The place at the start of the next line, `n` characters on. -/
def nextLine (c : Cursor) (n : Nat) : Cursor := ⟨c.index + n, c.line + 1, 0, c.rest.drop n⟩

/-- The break at the place, as the character it reads as, and the start of
the next line. -/
def break? (c : Cursor) : Option (Char × Cursor) :=
  match c.rest with
  | '\x0D' :: '\n' :: _ => some ('\n', c.nextLine 2)
  | x :: _ =>
    if x = '\n' || x = '\x0D' || x = '\u0085' then some ('\n', c.nextLine 1)
    else if isBreak x then some (x, c.nextLine 1)
    else none
  | [] => none

/-- The place after the break at the place, or the place itself. -/
def skipBreak (c : Cursor) : Cursor := (c.break?.map (·.2)).getD c

/-- The end of the line, if a comment starts at the place. -/
def skipComment (c : Cursor) : Cursor :=
  if c.char? = some '#' then c.skipWhile (!isBreak ·) else c

/-- The place after a byte order mark that starts a line. -/
def skipMark (c : Cursor) : Cursor :=
  if c.column = 0 && c.char? = some byteOrderMark then c.advance 1 else c

/-- The place at the end of a line, if only blanks and a comment stand
before it. -/
def lineEnd? (c : Cursor) : Option Cursor :=
  let c := (c.skipWhile isBlank).skipComment
  if c.char?.all isBreak then some c else none

/-- Whether a line with the mark of a document starts here: three hyphens,
or three full stops. -/
def atDocumentMark (c : Cursor) : Bool :=
  c.column = 0 && match c.rest with
    | '-' :: '-' :: '-' :: rest => endsWord rest
    | '.' :: '.' :: '.' :: rest => endsWord rest
    | _ => false

/-- A break takes characters off the text. -/
theorem length_of_break? {c next : Cursor} {x : Char} (h : c.break? = some (x, next)) :
    next.rest.length < c.rest.length := by
  unfold break? at h
  split at h
  · next hrest =>
    simp only [Option.some.injEq, Prod.mk.injEq] at h
    obtain ⟨-, rfl⟩ := h
    simp only [nextLine, hrest, List.drop_succ_cons, List.drop_zero, List.length_cons]
    omega
  · next hrest =>
    have hnext : next = c.nextLine 1 := by
      split at h
      · simp_all
      · split at h <;> simp_all
    subst hnext
    simp only [nextLine, hrest, List.drop_succ_cons, List.drop_zero, List.length_cons]
    omega
  · simp at h

/-- Nothing is put in front of a place by moving on from it. -/
theorem length_advance_le (c : Cursor) (n : Nat) : (c.advance n).rest.length ≤ c.rest.length := by
  simp [advance]

/-- A move by a character of the text takes it off. -/
theorem length_advance_lt {c : Cursor} {n : Nat} (hn : 0 < n) (hc : c.rest ≠ []) :
    (c.advance n).rest.length < c.rest.length := by
  have := List.length_pos_iff.2 hc
  simp only [advance, List.length_drop]
  omega

theorem length_spanWhile_le (p : Char → Bool) (c : Cursor) :
    (c.spanWhile p).2.rest.length ≤ c.rest.length := c.length_advance_le _

theorem length_skipWhile_le (p : Char → Bool) (c : Cursor) :
    (c.skipWhile p).rest.length ≤ c.rest.length := c.length_advance_le _

theorem length_skipComment_le (c : Cursor) : c.skipComment.rest.length ≤ c.rest.length := by
  unfold skipComment
  split
  · exact c.length_skipWhile_le _
  · exact Nat.le_refl _

theorem length_skipMark_le (c : Cursor) : c.skipMark.rest.length ≤ c.rest.length := by
  unfold skipMark
  split
  · exact c.length_advance_le 1
  · exact Nat.le_refl _

end Cursor

end Yaml

end ClusterBlueprint
