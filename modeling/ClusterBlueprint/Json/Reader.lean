import ClusterBlueprint.Json
import ClusterBlueprint.Text.Digits
/-!
# Json — reading documents

The reader follows the JSON grammar on the list of characters. A number
written as an integer is an integer if it fits in 64 bits, signed or
unsigned; otherwise, and for a minus zero, it is a decimal. A decimal is
rounded twice: as many leading digits as 64 bits hold make an integer, which
is rounded and then scaled by the power of ten that is left, so the number
read may be a neighbour of the nearest one. Of two fields with one key the
later stays.

The recursion is over a count of steps. A step that does not take a
character off the text leads to one that does, so twice the length of the
text suffices, and `read` hides the count.
-/

namespace ClusterBlueprint

namespace Json

/-- The blanks between the parts of a document. -/
def isSpace (c : Char) : Bool := c = ' ' || c = '\t' || c = '\n' || c = '\x0D'

/-- The text after leading blanks. -/
def skipSpace (cs : List Char) : List Char := cs.dropWhile isSpace

/-- The value of a hexadecimal digit. -/
def hexDigit? (c : Char) : Option Nat :=
  if c.isDigit then some (c.toNat - '0'.toNat)
  else if 'a' ≤ c ∧ c ≤ 'f' then some (c.toNat - 'a'.toNat + 10)
  else if 'A' ≤ c ∧ c ≤ 'F' then some (c.toNat - 'A'.toNat + 10)
  else none

/-- The value of four hexadecimal digits. -/
def hex4? (a b c d : Char) : Option Nat := do
  pure ((((← hexDigit? a) * 16 + (← hexDigit? b)) * 16 + (← hexDigit? c)) * 16 + (← hexDigit? d))

/-- The character of an escape of one letter. -/
def simpleEscape? : Char → Option Char
  | '"' => some '"'
  | '\\' => some '\\'
  | '/' => some '/'
  | 'b' => some '\x08'
  | 'f' => some '\x0C'
  | 'n' => some '\n'
  | 'r' => some '\x0D'
  | 't' => some '\t'
  | _ => none

/-- An escape after its backslash, and what follows it. An escaped number
of the first surrogate half needs one of the second half after it; no other
number of a half is a character. -/
def readEscape : List Char → Option (Char × List Char)
  | 'u' :: a :: b :: c :: d :: rest =>
    match hex4? a b c d with
    | none => none
    | some n =>
      if 0xDC00 ≤ n ∧ n < 0xE000 then none
      else if 0xD800 ≤ n ∧ n < 0xDC00 then
        match rest with
        | '\\' :: 'u' :: a :: b :: c :: d :: rest =>
          match hex4? a b c d with
          | none => none
          | some low =>
            if 0xDC00 ≤ low ∧ low < 0xE000 then
              some (Char.ofNat (0x10000 + (n - 0xD800) * 0x400 + (low - 0xDC00)), rest)
            else none
        | _ => none
      else some (Char.ofNat n, rest)
  | c :: rest => (simpleEscape? c).map fun e => (e, rest)
  | [] => none

/-- An escape takes characters off the text. -/
theorem length_of_readEscape {cs rest : List Char} {c : Char}
    (h : readEscape cs = some (c, rest)) : rest.length < cs.length := by
  unfold readEscape at h
  split at h
  · split at h
    · simp at h
    · split at h
      · simp at h
      · split at h
        · split at h
          · split at h
            · simp at h
            · split at h
              · simp only [Option.some.injEq, Prod.mk.injEq] at h
                obtain ⟨-, rfl⟩ := h
                simp only [List.length_cons]
                omega
              · simp at h
          · simp at h
        · simp only [Option.some.injEq, Prod.mk.injEq] at h
          obtain ⟨-, rfl⟩ := h
          simp only [List.length_cons]
          omega
  · obtain ⟨e, -, he⟩ := Option.map_eq_some_iff.1 h
    simp only [Prod.mk.injEq] at he
    obtain ⟨-, rfl⟩ := he
    simp
  · simp at h

/-- The rest of a text after its opening quote, and what follows it. -/
def readText (acc : List Char) (cs : List Char) : Option (String × List Char) :=
  match cs with
  | [] => none
  | '"' :: rest => some (String.ofList acc.reverse, rest)
  | '\\' :: rest =>
    match h : readEscape rest with
    | none => none
    | some (c, rest') =>
      have := length_of_readEscape h
      readText (c :: acc) rest'
  | c :: rest => if c.toNat < 0x20 then none else readText (c :: acc) rest
termination_by cs.length

/-- The digits at the start of a text, and what follows them. -/
def spanDigits (cs : List Char) : List Char × List Char := cs.span Char.isDigit

/-- The exponent of a number, zero if there is none, and what follows. -/
def readExponent (cs : List Char) : Option (Int × List Char) :=
  let signed (rest : List Char) : Option (Int × List Char) :=
    match rest with
    | '-' :: ds => (Text.digitsValue? (spanDigits ds).1).map fun n => (-(n : Int), (spanDigits ds).2)
    | '+' :: ds => (Text.digitsValue? (spanDigits ds).1).map fun n => ((n : Int), (spanDigits ds).2)
    | ds => (Text.digitsValue? (spanDigits ds).1).map fun n => ((n : Int), (spanDigits ds).2)
  match cs with
  | 'e' :: rest => signed rest
  | 'E' :: rest => signed rest
  | _ => some (0, cs)

/-- Whether an integer fits in 64 bits, signed or unsigned. -/
def fitsInteger (n : Int) : Bool := decide (-(2 ^ 63) ≤ n ∧ n < 2 ^ 64)

/-- Takes digits into a number as long as it fits in 64 bits; the digits
from the first that does not fit on are left out. -/
def takeDigits (n : Nat) (ds : List Char) : Nat × List Char :=
  match ds with
  | [] => (n, [])
  | d :: rest =>
    let next := n * 10 + (d.toNat - '0'.toNat)
    if next < 2 ^ 64 then takeDigits next rest else (n, d :: rest)

/-- The decimal of the digits before and after a point and of an exponent.
A digit left out before the point still counts for the power of ten; one
left out after it does not. -/
def decimalOf? (negative : Bool) (whole places : List Char) (power : Int) : Option Binary64 :=
  let (n, more) := takeDigits 0 whole
  let (n, unread) := takeDigits n places
  (Binary64.nearest negative n 1).scaleTen?
    (power + more.length - (places.length - unread.length : Nat))

/-- The rest of a number after its sign. -/
def readNumber (negative : Bool) (cs : List Char) : Option (Json × List Char) := do
  let (whole, rest) := spanDigits cs
  let n ← Text.digitsValue? whole
  if whole.head? = some '0' ∧ whole.length ≠ 1 then none
  match rest with
  | '.' :: rest =>
    let (places, rest) := spanDigits rest
    if places = [] then none
    let (power, rest) ← readExponent rest
    (decimalOf? negative whole places power).map fun x => (decimal x, rest)
  | _ =>
    let (power, rest') ← readExponent rest
    let value : Int := if negative then -(n : Int) else n
    if rest'.length = rest.length ∧ fitsInteger value ∧ ¬ (negative ∧ n = 0) then
      pure (integer value, rest')
    else (decimalOf? negative whole [] power).map fun x => (decimal x, rest')

/-- A word that stands for a document. -/
def readWord (word : List Char) (doc : Json) (cs : List Char) : Option (Json × List Char) :=
  if word.isPrefixOf cs then some (doc, cs.drop word.length) else none

mutual

/-- A document and what follows it. -/
def readValue (steps : Nat) (cs : List Char) : Option (Json × List Char) :=
  match steps with
  | 0 => none
  | steps + 1 =>
    match skipSpace cs with
    | '"' :: rest => (readText [] rest).map fun (s, rest) => (text s, rest)
    | '[' :: rest =>
      match skipSpace rest with
      | ']' :: rest => some (array [], rest)
      | rest => (readItems steps rest).map fun (items, rest) => (array items, rest)
    | '{' :: rest =>
      match skipSpace rest with
      | '}' :: rest => some (object [], rest)
      | rest => (readFields steps rest).map fun (fields, rest) => (ofFields fields, rest)
    | '-' :: rest => readNumber true rest
    | 't' :: rest => readWord "rue".toList (bool true) rest
    | 'f' :: rest => readWord "alse".toList (bool false) rest
    | 'n' :: rest => readWord "ull".toList null rest
    | rest => readNumber false rest

/-- The items of an array up to its closing bracket, and what follows. -/
def readItems (steps : Nat) (cs : List Char) : Option (List Json × List Char) :=
  match steps with
  | 0 => none
  | steps + 1 => do
    let (item, rest) ← readValue steps cs
    match skipSpace rest with
    | ',' :: rest =>
      let (items, rest) ← readItems steps rest
      pure (item :: items, rest)
    | ']' :: rest => pure ([item], rest)
    | _ => none

/-- The fields of an object up to its closing brace, and what follows. -/
def readFields (steps : Nat) (cs : List Char) : Option (List (String × Json) × List Char) :=
  match steps with
  | 0 => none
  | steps + 1 =>
    match skipSpace cs with
    | '"' :: rest => do
      let (key, rest) ← readText [] rest
      match skipSpace rest with
      | ':' :: rest =>
        let (value, rest) ← readValue steps rest
        match skipSpace rest with
        | ',' :: rest =>
          let (fields, rest) ← readFields steps rest
          pure ((key, value) :: fields, rest)
        | '}' :: rest => pure ([(key, value)], rest)
        | _ => none
      | _ => none
    | _ => none

end

/-- Reads a text that is one document. -/
def read (s : String) : Option Json :=
  let cs := s.toList
  match readValue (2 * cs.length + 2) cs with
  | some (doc, rest) => if (skipSpace rest).isEmpty then some doc else none
  | none => none

end Json

end ClusterBlueprint
