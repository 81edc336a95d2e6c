import ClusterBlueprint.Text.Invisible
/-!
# Text — quoted characters and texts in messages

A message shows an offending character or text between quotes, in a form
that a terminal cannot garble: the quote and the backslash are preceded by
a backslash, the four common controls have a letter, and every other
invisible character is written as its number in lower-case hexadecimal
between braces.
-/

namespace ClusterBlueprint

namespace Text

/-- The numeral of `n` in lower-case hexadecimal. -/
def hexNumeral (n : Nat) : String := String.ofList (Nat.toDigits 16 n)

/-- One character as it stands inside a text quoted by `quote`. -/
def escaped (quote : Char) (c : Char) : String :=
  if c = '\x00' then "\\0"
  else if c = '\t' then "\\t"
  else if c = '\n' then "\\n"
  else if c = '\x0D' then "\\r"
  else if c = '\\' ∨ c = quote then String.ofList ['\\', c]
  else if isInvisible c then "\\u\x7b" ++ hexNumeral c.toNat ++ "\x7d"
  else String.singleton c

/-- A character between single quotes. -/
def quotedChar (c : Char) : String := "'" ++ escaped '\'' c ++ "'"

/-- A text between double quotes. -/
def quoted (s : String) : String :=
  "\"" ++ String.join (s.toList.map (escaped '"')) ++ "\""

end Text

end ClusterBlueprint
