import ClusterBlueprint.Binary64.Shortest
import ClusterBlueprint.Json
/-!
# Json — writing documents

The compact layout has no blanks and is what content hashes are taken over.
The indented layout puts every item and field on a line of its own, two
blanks deeper than the bracket that holds it; an empty array or object
stays on one line. Both write the quote, the backslash and the controls of
a text as escapes and everything else as it is.
-/

namespace ClusterBlueprint

namespace Json

/-- A control character as four hexadecimal digits. -/
def controlEscape (c : Char) : String :=
  String.ofList ['\\', 'u', '0', '0', (c.toNat / 16).digitChar, (c.toNat % 16).digitChar]

/-- One character inside a written text. -/
def escape (c : Char) : String :=
  if c = '"' then "\\\""
  else if c = '\\' then "\\\\"
  else if c = '\x08' then "\\b"
  else if c = '\x0C' then "\\f"
  else if c = '\n' then "\\n"
  else if c = '\x0D' then "\\r"
  else if c = '\t' then "\\t"
  else if c.toNat < 0x20 then controlEscape c
  else String.singleton c

/-- A written text. -/
def quote (s : String) : String :=
  "\"" ++ s.toList.foldl (fun acc c => acc ++ escape c) "" ++ "\""

mutual

/-- The document without blanks. -/
def compact : Json → String
  | null => "null"
  | bool b => if b then "true" else "false"
  | integer n => toString n
  | decimal x => x.toDocument
  | text s => quote s
  | array items => "[" ++ ",".intercalate (compactItems items) ++ "]"
  | object fields => "\x7b" ++ ",".intercalate (compactFields fields) ++ "\x7d"

/-- The items of an array without blanks. -/
def compactItems : List Json → List String
  | [] => []
  | item :: rest => item.compact :: compactItems rest

/-- The fields of an object without blanks. -/
def compactFields : List (String × Json) → List String
  | [] => []
  | (key, value) :: rest => (quote key ++ ":" ++ value.compact) :: compactFields rest

end

/-- The start of a line at a depth of nesting. -/
def newLine (depth : Nat) : String := String.ofList ('\n' :: List.replicate (2 * depth) ' ')

/-- Lines between brackets, or the brackets alone. -/
def bracket (opening closing : String) (depth : Nat) (lines : List String) : String :=
  if lines.isEmpty then opening ++ closing
  else opening ++ newLine (depth + 1) ++ ("," ++ newLine (depth + 1)).intercalate lines
    ++ newLine depth ++ closing

mutual

/-- The document on indented lines, inside `depth` brackets. -/
def indentedAt (depth : Nat) : Json → String
  | array items => bracket "[" "]" depth (indentedItems (depth + 1) items)
  | object fields => bracket "\x7b" "\x7d" depth (indentedFields (depth + 1) fields)
  | null => "null"
  | bool b => compact (bool b)
  | integer n => compact (integer n)
  | decimal x => compact (decimal x)
  | text s => compact (text s)

/-- The items of an array on indented lines. -/
def indentedItems (depth : Nat) : List Json → List String
  | [] => []
  | item :: rest => item.indentedAt depth :: indentedItems depth rest

/-- The fields of an object on indented lines. -/
def indentedFields (depth : Nat) : List (String × Json) → List String
  | [] => []
  | (key, value) :: rest =>
    (quote key ++ ": " ++ value.indentedAt depth) :: indentedFields depth rest

end

/-- The document on indented lines. -/
def indented (doc : Json) : String := doc.indentedAt 0

end Json

end ClusterBlueprint
