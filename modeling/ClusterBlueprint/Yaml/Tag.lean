import ClusterBlueprint.Text.Bytes
import ClusterBlueprint.Yaml.Cursor
import ClusterBlueprint.Yaml.Scalar
/-!
# Yaml — tags

A tag says what kind of node follows. It is written in full between angle
brackets, or with a handle, which stands for the beginning that a directive
gave it. A tag is a sequence of octets: some characters stand for themselves
and all others are written as the octets of their UTF-8 form, each as a
percent sign and two hexadecimal digits.

The handle is empty for a tag written in full and for the lone exclamation
mark.
-/

namespace ClusterBlueprint

namespace Yaml

/-- A tag as it is written: its handle, and the octets after it. -/
structure WrittenTag where
  handle : List Char
  octets : List UInt8

/-- The octets of a text. -/
def octetsOf (cs : List Char) : List UInt8 := Text.bytes (String.ofList cs)

/-- A tag, as its octets. -/
abbrev Tag := List UInt8

namespace Tag

/-- What the tags of the language itself begin with. -/
def corePrefix : Tag := octetsOf "tag:yaml.org,2002:".toList

/-- A tag of the language itself. -/
def core (name : String) : Tag := corePrefix ++ octetsOf name.toList

/-- The tag that says nothing about the kind of its node. -/
def nonSpecific : Tag := octetsOf ['!']

/-- Whether the tag begins with an exclamation mark. -/
def startsLocal (tag : Tag) : Bool := nonSpecific.isPrefixOf tag

/-- Whether the tag is a name of the text's own: an exclamation mark, and a
text in UTF-8. -/
def isLocal (tag : Tag) : Bool :=
  tag.startsLocal && (String.fromUTF8? ⟨(tag.drop 1).toArray⟩).isSome

end Tag

/-- The characters that stand for themselves in a tag. A comma and the
square brackets do so only where flow cannot take them. -/
def isTagChar (outsideFlow : Bool) (c : Char) : Bool :=
  isNameChar c || ";/?:@&=+$.!~*'()".toList.contains c
    || (outsideFlow && ",[]".toList.contains c)

/-- How many octets follow the first one of a character. -/
def followers? (octet : Nat) : Option Nat :=
  if octet < 0x80 then some 0
  else if 0xC0 ≤ octet ∧ octet < 0xE0 then some 1
  else if 0xE0 ≤ octet ∧ octet < 0xF0 then some 2
  else if 0xF0 ≤ octet ∧ octet < 0xF8 then some 3
  else none

/-- How many octets have to follow an octet, of which `due` was expected
as a further one of a character or, at zero, as a first one. -/
def dueAfter? (due : Nat) (octet : Nat) : Option Nat :=
  match due with
  | 0 => followers? octet
  | due + 1 => if 0x80 ≤ octet ∧ octet < 0xC0 then some due else none

/-- The octets written at the start of a text, and how many characters they
take. While further octets of a character are due there is no way to end. -/
def readOctets? (outsideFlow : Bool) (due : Nat) : List Char → Option (List UInt8 × Nat)
  | '%' :: a :: b :: rest =>
    match digitsIn? 16 [a, b] with
    | none => none
    | some octet =>
      match dueAfter? due octet with
      | none => none
      | some due =>
        (readOctets? outsideFlow due rest).map fun (octets, n) =>
          (UInt8.ofNat octet :: octets, n + 3)
  | x :: rest =>
    if due ≠ 0 || x = '%' then none
    else if isTagChar outsideFlow x then
      (readOctets? outsideFlow 0 rest).map fun (octets, n) => (octetsOf [x] ++ octets, n + 1)
    else some ([], 0)
  | [] => if due = 0 then some ([], 0) else none

/-- Octets at a place, at least one, and the place after them. -/
def readOctetsAt? (outsideFlow : Bool) (c : Cursor) : Option (List UInt8 × Cursor) :=
  match readOctets? outsideFlow 0 c.rest with
  | some (octets, n) => if octets.isEmpty then none else some (octets, c.advance n)
  | none => none

/-- The name between the exclamation marks of a handle, and whether the
second one is there; the place is the first one. -/
def readHandle (c : Cursor) : List Char × Bool × Cursor :=
  let (name, c) := (c.advance 1).spanWhile isNameChar
  if c.char? = some '!' then ('!' :: name ++ ['!'], true, c.advance 1) else ('!' :: name, false, c)

/-- The tag at a place, and the place after it. -/
def readTag? (inFlow : Bool) (c : Cursor) : Option (WrittenTag × Cursor) := do
  let (tag, c) ←
    if (c.advance 1).char? = some '<' then do
      let (octets, c) ← readOctetsAt? true (c.advance 2)
      if c.char? = some '>' then some (⟨[], octets⟩, c.advance 1) else none
    else
      match readHandle c with
      | (handle, true, c) =>
        (readOctetsAt? false c).map fun (octets, c) => (⟨handle, octets⟩, c)
      | (name, false, c) =>
        match readOctets? false 0 c.rest with
        | none => none
        | some (octets, n) =>
          let octets := octetsOf (name.drop 1) ++ octets
          some (if octets.isEmpty then ⟨[], Tag.nonSpecific⟩ else ⟨['!'], octets⟩, c.advance n)
  if endsWord c.rest || (inFlow && c.char? = some ',') then some (tag, c) else none

end Yaml

end ClusterBlueprint
