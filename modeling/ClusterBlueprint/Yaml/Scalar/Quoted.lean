import ClusterBlueprint.Yaml.Gap
import ClusterBlueprint.Yaml.Scalar
/-!
# Yaml — scalars between quotes

A scalar between quotes is a text whatever it looks like. It may go over
several lines, and then its gaps are folded. Between single quotes only the
quote itself is special: it is written twice. Between double quotes a
backslash begins an escape, and before the end of a line it takes the break
away. Blanks that are written as escapes are part of a word, not of a gap.
-/

namespace ClusterBlueprint

namespace Yaml

/-- The character of an escape of one letter. -/
def simpleEscape? : Char → Option Char
  | '0' => some '\x00'
  | 'a' => some '\x07'
  | 'b' => some '\x08'
  | 't' => some '\t'
  | '\t' => some '\t'
  | 'n' => some '\n'
  | 'v' => some '\x0B'
  | 'f' => some '\x0C'
  | 'r' => some '\x0D'
  | 'e' => some '\x1B'
  | ' ' => some ' '
  | '"' => some '"'
  | '/' => some '/'
  | '\\' => some '\\'
  | 'N' => some '\u0085'
  | '_' => some '\u00A0'
  | 'L' => some '\u2028'
  | 'P' => some '\u2029'
  | _ => none

/-- How many hexadecimal digits follow the letter of an escape. -/
def escapeWidth? : Char → Option Nat
  | 'x' => some 2
  | 'u' => some 4
  | 'U' => some 8
  | _ => none

/-- The character of a number; a surrogate half has none. -/
def charOf? (n : Nat) : Option Char :=
  if (0xD800 ≤ n ∧ n < 0xE000) ∨ 0x110000 ≤ n then none else some (Char.ofNat n)

/-- The escape after a backslash: its character, and how many characters
it is written with. -/
def escape? : List Char → Option (Char × Nat)
  | [] => none
  | x :: rest =>
    match escapeWidth? x with
    | some width =>
      if width ≤ rest.length then
        ((digitsIn? 16 (rest.take width)).bind charOf?).map fun c => (c, width + 1)
      else none
    | none => (simpleEscape? x).map fun c => (c, 1)

/-- The two kinds of quotes. -/
inductive Quote where
  | single
  | double
deriving DecidableEq

/-- The mark of a quote. -/
def Quote.mark : Quote → Char
  | .single => '\''
  | .double => '"'

/-- The rest of a scalar after its opening quote, and the place after the
closing one. A mark of a document must not stand in the scalar. -/
def readQuoted? (quote : Quote) (acc : List Char) (c : Cursor) : Option (List Char × Cursor) :=
  if c.atDocumentMark then none
  else
    match hc : c.rest with
    | [] => none
    | x :: rest =>
      have hne : c.rest ≠ [] := hc ▸ List.cons_ne_nil x rest
      if hx : isWhite x then
        match hgap : Gap.read? 0 c with
        | none => none
        | some (gap, next) =>
          have := Gap.length_of_read?_of_white (by simp [Cursor.char?, hc]) hx hgap
          readQuoted? quote (gap.text.reverse ++ acc) next
      else if x = quote.mark then
        if quote = .single ∧ rest.head? = some quote.mark then
          have := c.length_advance_lt (n := 2) (by decide) hne
          readQuoted? quote (x :: acc) (c.advance 2)
        else some (acc.reverse, c.advance 1)
      else if quote = .double ∧ x = '\\' then
        match hbreak : (c.advance 1).break? with
        | some (_, line) =>
          match hline : Gap.readBreaks? 0 line with
          | none => none
          | some (further, next) =>
            have := c.length_advance_le 1
            have := Cursor.length_of_break? hbreak
            have := Gap.length_of_readBreaks? hline
            readQuoted? quote (further.reverse ++ acc) next
        | none =>
          match escape? rest with
          | none => none
          | some (e, width) =>
            have := c.length_advance_lt (n := width + 1) width.succ_pos hne
            readQuoted? quote (e :: acc) (c.advance (width + 1))
      else
        have := c.length_advance_lt (n := 1) (by decide) hne
        readQuoted? quote (x :: acc) (c.advance 1)
termination_by c.rest.length

end Yaml

end ClusterBlueprint
