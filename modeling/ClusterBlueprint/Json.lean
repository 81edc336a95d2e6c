import ClusterBlueprint.Binary64
import ClusterBlueprint.Ordered.Dict
/-!
# Json — documents

Claims, properties of resources and manifests are JSON documents. An
integer and a decimal number are different documents even when they are
equal in value: a count is read from an integer only. The fields of an
object are a list of bindings; the reader and the builders here keep it in
ascending order of the keys, which is the order it is written in.
-/

namespace ClusterBlueprint

/-- A JSON document. -/
inductive Json where
  | null
  | bool (b : Bool)
  | integer (n : Int)
  | decimal (x : Binary64)
  | text (s : String)
  | array (items : List Json)
  | object (fields : List (String × Json))

namespace Json

/-- The fields of an object. -/
def fields? : Json → Option (List (String × Json))
  | object fields => some fields
  | _ => none

/-- The items of an array. -/
def items? : Json → Option (List Json)
  | array items => some items
  | _ => none

/-- The text of a text. -/
def text? : Json → Option String
  | text s => some s
  | _ => none

/-- The truth value of a boolean. -/
def bool? : Json → Option Bool
  | bool b => some b
  | _ => none

/-- The value of an integer from zero up to `2 ^ 64`, excluded. -/
def count? : Json → Option Nat
  | integer n => if 0 ≤ n ∧ n < 2 ^ 64 then some n.toNat else none
  | _ => none

/-- The value of a number; an integer is rounded to the nearest one. -/
def number? : Json → Option Binary64
  | integer n => some (Binary64.ofInt n)
  | decimal x => some x
  | _ => none

/-- Whether the document is `null`. -/
def isNull : Json → Bool
  | null => true
  | _ => false

/-- The value of a field, if the document is an object that has it. -/
def get? (doc : Json) (key : String) : Option Json :=
  match doc with
  | object fields => Bindings.find? key fields
  | _ => none

/-- The document with a field written, if it is an object. -/
def put (doc : Json) (key : String) (value : Json) : Json :=
  match doc with
  | object fields => object (Bindings.put key value fields)
  | other => other

/-- The object with the given fields, put in order. -/
def ofFields (fields : List (String × Json)) : Json := object (Bindings.ofList fields)

/-- A list of texts. -/
def texts (ss : List String) : Json := array (ss.map text)

/-- A natural number. -/
def nat (n : Nat) : Json := integer n

/-- A dictionary of texts. -/
def ofDict (d : Dict String) : Json := object (d.bindings.map fun (k, v) => (k, text v))

/-- A text that may be absent. -/
def ofText? : Option String → Json
  | some s => text s
  | none => null

/-- The value of a field is a matter of the fields alone. -/
@[simp] theorem get?_object (fields : List (String × Json)) (key : String) :
    (object fields).get? key = Bindings.find? key fields := rfl

end Json

end ClusterBlueprint
