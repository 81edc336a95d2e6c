import ClusterBlueprint.Json
/-!
# Json — records and names in documents

Specs, plans and resources are kept as documents and read back. A record is
an object with the record's fields, of which unknown ones are ignored, or
else the list of the fields' values in order. A name out of a fixed set is
its text, or else an object with that one key and no value.
-/

namespace ClusterBlueprint

namespace Json

/-- The fields of a record whose fields are `names`, in order. -/
def record? (names : List String) : Json → Option (List (String × Json))
  | object fields => some fields
  | array items => if items.length ≤ names.length then some (names.zip items) else none
  | _ => none

/-- The name that a document stands for. -/
def name? : Json → Option String
  | text s => some s
  | object [(s, null)] => some s
  | _ => none

/-- A field that has to be there. -/
def required? {α : Type} (value? : Json → Option α) (fields : List (String × Json))
    (key : String) : Option α := do
  value? (← Bindings.find? key fields)

/-- A field that may be absent or `null`. -/
def optional? {α : Type} (value? : Json → Option α) (fields : List (String × Json))
    (key : String) : Option (Option α) :=
  match Bindings.find? key fields with
  | none | some null => some none
  | some doc => (value? doc).map some

/-- A count below a bound. -/
def countBelow? (bound : Nat) (doc : Json) : Option Nat := doc.count?.filter (· < bound)

/-- The items of a list, each with a value. -/
def list? {α : Type} (value? : Json → Option α) (doc : Json) : Option (List α) := do
  (← doc.items?).mapM value?

/-- One binding of a dictionary of texts. -/
def dictBinding? : String × Json → Option (String × String)
  | (key, value) => value.text?.map fun s => (key, s)

/-- A dictionary of texts. -/
def dict? (doc : Json) : Option (Dict String) := do
  pure (Dict.ofList (← (← doc.fields?).mapM dictBinding?))

end Json

end ClusterBlueprint
