import ClusterBlueprint.Yaml.Tag
/-!
# Yaml — directives

Before its first mark a document may say which version of the language it
is written in and what the handles of its tags stand for. No other
directive is known.
-/

namespace ClusterBlueprint

namespace Yaml

/-- A directive: a version, or the octets that a handle stands for. -/
inductive Directive where
  | version (major minor : Nat)
  | handle (handle : List Char) (octets : List UInt8)

namespace Directive

/-- A number of one to nine digits, and the place after it. -/
def readNumber? (c : Cursor) : Option (Nat × Cursor) :=
  let (digits, c) := c.spanWhile Char.isDigit
  if digits.isEmpty || digits.length > 9 then none else some (Nat.ofDigitChars 10 digits 0, c)

/-- The version at a place, and the place after it. -/
def readVersion? (c : Cursor) : Option (Directive × Cursor) := do
  let (major, c) ← readNumber? (c.skipWhile isBlank)
  if c.char? ≠ some '.' then none
  else
    let (minor, c) ← readNumber? (c.advance 1)
    pure (version major minor, c)

/-- The handle at a place with what it stands for, and the place after. -/
def readHandle? (c : Cursor) : Option (Directive × Cursor) :=
  let c := c.skipWhile isBlank
  if c.char? ≠ some '!' then none
  else
    let (name, closed, c) := readHandle c
    if (!closed && name ≠ ['!']) || !c.char?.any isBlank then none
    else
      match readOctetsAt? true (c.skipWhile isBlank) with
      | some (octets, c) => if endsWord c.rest then some (handle name octets, c) else none
      | none => none

/-- The directive at a place, after its percent sign, and the place after
its line. -/
def read? (c : Cursor) : Option (Directive × Cursor) := do
  let (name, c) := c.spanWhile isNameChar
  let (directive, c) ←
    if !endsWord c.rest then none
    else if name = "YAML".toList then readVersion? c
    else if name = "TAG".toList then readHandle? c
    else none
  let c ← c.lineEnd?
  pure (directive, c.skipBreak)

end Directive

end Yaml

end ClusterBlueprint
