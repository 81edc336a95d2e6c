import ClusterBlueprint.Yaml.Token
/-!
# Yaml — layout

The layout is what the tokens that come next depend on: the blocks that are
open, each by the column its entries start at, and how deep in flow
collections the text is. A margin is the column after that of the innermost
block, and zero where no block is open: what starts to the left of it closes
the block.

A key shows itself only by the colon after it. So a place where a key may
stand is remembered, one at each depth of flow, and its token is put in
front of it once the colon comes. A key has to stand in one line with its
colon, and not more than 1024 characters before it. In a block, where
a key is all that can stand, it is an error if no colon comes.
-/

namespace ClusterBlueprint

namespace Yaml

/-- A place where a key may stand: how many tokens are before it, where it
is, and whether nothing else can stand there. -/
structure PossibleKey where
  position : Nat
  place : Cursor
  isRequired : Bool

/-- Whether a colon at a place is too far from the key. -/
def PossibleKey.isStale (key : PossibleKey) (c : Cursor) : Bool :=
  key.place.line < c.line || key.place.index + 1024 < c.index

/-- The tokens so far, the latest first, and how many there are; the margins
of the open blocks, the innermost first; the possible key at this depth of
flow and those at the depths around it; and whether a key may stand next. -/
structure Layout where
  tokens : List Token
  count : Nat
  margins : List Nat
  key : Option PossibleKey
  outerKeys : List (Option PossibleKey)
  keyAllowed : Bool

namespace Layout

/-- The layout at the start of a text. -/
def start : Layout := ⟨[], 0, [], none, [], true⟩

/-- Whether the place is inside a flow collection. -/
def inFlow (l : Layout) : Bool := !l.outerKeys.isEmpty

/-- The margin of the innermost block. -/
def margin (l : Layout) : Nat := l.margins.headD 0

/-- The tokens with more of them, the latest first, put in where `position`
tokens are before them. -/
def insert (l : Layout) (position : Nat) (more : List Token) : Layout :=
  let after := l.count - position
  { l with
    tokens := l.tokens.take after ++ more ++ l.tokens.drop after
    count := l.count + more.length }

/-- The tokens with another one after them. -/
def emit (l : Layout) (token : Token) : Layout := l.insert l.count [token]

/-- Closes the blocks whose margin is beyond the given one; inside flow
none is closed. -/
def closeTo (l : Layout) (margin : Nat) : Layout :=
  if l.inFlow then l
  else
    let closed := l.margins.takeWhile (margin < ·)
    { l.insert l.count (closed.map fun _ => .blockEnd) with
      margins := l.margins.drop closed.length }

/-- Opens a block at a column, unless one is open there already or the
place is inside flow. Its token is put in where `position` tokens are before
it. -/
def openBlock (l : Layout) (token : Token) (column position : Nat) : Layout :=
  if !l.inFlow && l.margin ≤ column then
    { l.insert position [token] with margins := (column + 1) :: l.margins }
  else l

/-- Opens a block at a column of a block, where a key has to be allowed. -/
def openAt? (l : Layout) (token : Token) (c : Cursor) : Option Layout :=
  if l.inFlow || l.keyAllowed then some (l.openBlock token c.column l.count) else none

/-- Gives up the possible key at this depth; an error if it is required. -/
def dropKey? (l : Layout) : Option Layout :=
  if l.key.any PossibleKey.isRequired then none else some { l with key := none }

/-- Remembers a place as that of a possible key, where one is allowed. In a
block whose entries start at the column it is required. -/
def saveKey? (l : Layout) (c : Cursor) : Option Layout :=
  if l.keyAllowed then
    l.dropKey?.map fun l =>
      { l with key := some ⟨l.count, c, !l.inFlow && l.margin == c.column + 1⟩ }
  else some l

/-- Gives up the possible keys that a colon at a place would be too far
from; an error if one is required. -/
def dropStale? (l : Layout) (c : Cursor) : Option Layout :=
  let keep (key : Option PossibleKey) := key.filter fun key => !key.isStale c
  let lost (key : Option PossibleKey) := key.any fun key => key.isStale c && key.isRequired
  if (l.key :: l.outerKeys).any lost then none
  else some { l with key := keep l.key, outerKeys := l.outerKeys.map keep }

/-- The layout after a mark or a directive that belongs to no block. -/
def separate? (l : Layout) (token : Token) : Option Layout :=
  (l.closeTo 0).dropKey?.map fun l => { l.emit token with keyAllowed := false }

/-- The layout after the opening of a flow collection. -/
def openFlow? (l : Layout) (token : Token) (c : Cursor) : Option Layout :=
  (l.saveKey? c).map fun l =>
    { l.emit token with key := none, outerKeys := l.key :: l.outerKeys, keyAllowed := true }

/-- The layout after the end of a flow collection. -/
def closeFlow? (l : Layout) (token : Token) : Option Layout :=
  l.dropKey?.map fun l =>
    { l.emit token with
      key := l.outerKeys.headD none, outerKeys := l.outerKeys.drop 1, keyAllowed := false }

/-- The layout after a comma in flow. -/
def comma? (l : Layout) : Option Layout :=
  l.dropKey?.map fun l => { l.emit .comma with keyAllowed := true }

/-- The layout after the hyphen of an item. -/
def item? (l : Layout) (c : Cursor) : Option Layout := do
  let l ← l.openAt? .blockList c
  let l ← l.dropKey?
  pure { l.emit .item with keyAllowed := true }

/-- The layout after the question mark before a key. -/
def key? (l : Layout) (c : Cursor) : Option Layout := do
  let l ← l.openAt? .blockMapping c
  let l ← l.dropKey?
  pure { l.emit .key with keyAllowed := !l.inFlow }

/-- The layout after a colon. If a key is possible its token and, where it
is the first one of a block, that of the block are put in front of it. -/
def value? (l : Layout) (c : Cursor) : Option Layout :=
  match l.key with
  | some key =>
    let l := (l.insert key.position [.key]).openBlock .blockMapping key.place.column key.position
    some { l.emit .value with key := none, keyAllowed := false }
  | none =>
    (l.openAt? .blockMapping c).map fun l => { l.emit .value with keyAllowed := !l.inFlow }

/-- The layout after what may be a key or a part of one. -/
def content? (l : Layout) (token : Token) (c : Cursor) : Option Layout :=
  (l.saveKey? c).map fun l => { l.emit token with keyAllowed := false }

/-- All tokens, at the end of a text. -/
def finish? (l : Layout) : Option (List Token) :=
  (l.closeTo 0).dropKey?.map fun l => l.tokens.reverse

/-- The next place in the line that is neither blank nor comment. A tab is
no blank where a key may stand in a block. -/
def skipInLine (l : Layout) (c : Cursor) : Cursor :=
  (c.skipMark.skipWhile fun x => x = ' ' || (x = '\t' && (l.inFlow || !l.keyAllowed))).skipComment

/-- What is skipped in a line puts nothing in front of a place. -/
theorem length_skipInLine_le (l : Layout) (c : Cursor) :
    (l.skipInLine c).rest.length ≤ c.rest.length :=
  Nat.le_trans (Cursor.length_skipComment_le _)
    (Nat.le_trans (Cursor.length_skipWhile_le _ _) c.length_skipMark_le)

/-- The next place that is neither blank nor comment nor the end of a line.
In a block a key may stand on a new line. -/
def skip (l : Layout) (c : Cursor) : Layout × Cursor :=
  match h : (l.skipInLine c).break? with
  | some (_, next) =>
    have := Nat.lt_of_lt_of_le (Cursor.length_of_break? h) (l.length_skipInLine_le c)
    skip { l with keyAllowed := l.keyAllowed || !l.inFlow } next
  | none => (l, l.skipInLine c)
termination_by c.rest.length

end Layout

end Yaml

end ClusterBlueprint
