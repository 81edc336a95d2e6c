import ClusterBlueprint.Json.Record
import ClusterBlueprint.Resource.Kind
/-!
# Graph — resources and their references

A resource refers to another by its name, in a property whose key ends in
`Ref`, or to several, in one whose key ends in `Refs`. References may stand
at any depth of the properties: `Json.references` walks the whole document,
also through the references themselves.
-/

namespace ClusterBlueprint

namespace Json

/-- The name in a reference. -/
def referredName? (target : Json) : Option String := do (← target.get? "name").text?

/-- The names that a field refers to by its key alone. -/
def fieldReferences (key : String) (value : Json) : List String :=
  if "Ref".toList.isSuffixOf key.toList then value.referredName?.toList
  else if "Refs".toList.isSuffixOf key.toList then
    (value.items?.getD []).filterMap referredName?
  else []

mutual

/-- The names that a document refers to, at any depth. -/
def references : Json → List String
  | object fields => referencesInFields fields
  | array items => referencesInItems items
  | null | bool _ | integer _ | decimal _ | text _ => []

/-- The names that the items of an array refer to. -/
def referencesInItems : List Json → List String
  | [] => []
  | item :: rest => item.references ++ referencesInItems rest

/-- The names that the fields of an object refer to, by their keys and
inside their values. -/
def referencesInFields : List (String × Json) → List String
  | [] => []
  | (key, value) :: rest =>
    fieldReferences key value ++ value.references ++ referencesInFields rest

end

end Json

/-- A resource of a graph. -/
structure Node where
  id : String
  kind : ResourceKind
  /-- The name of the resource at the provider. -/
  name : String
  properties : Json
  /-- What the resource publishes for clients once it exists. -/
  details : Dict String
  /-- The ids of the resources that it refers to. -/
  dependsOn : TextSet

namespace Node

/-- The names that the properties refer to. -/
def references (n : Node) : TextSet := TextSet.ofList n.properties.references

/-- One property. -/
def property? (n : Node) (key : String) : Option Json := n.properties.get? key

/-- A kind as a document. -/
def kindJson (kind : ResourceKind) : Json := .text kind.documentName

/-- The kind of a document. -/
def kindOfJson? (doc : Json) : Option ResourceKind := do
  ResourceKind.ofDocumentName? (← doc.name?)

/-- The field of the document that holds the details; it is absent when
there are none. -/
def detailsField (n : Node) : List (String × Json) :=
  if n.details.isEmpty then [] else [("connectionDetails", .ofDict n.details)]

/-- A resource as a document. -/
def toJson (n : Node) : Json :=
  .object <|
    n.detailsField
    ++ [("dependsOn", .texts n.dependsOn.toList),
      ("id", .text n.id),
      ("kind", kindJson n.kind),
      ("name", .text n.name),
      ("properties", n.properties)]

/-- The details of a document; an absent field stands for none. -/
def detailsOf? (fields : List (String × Json)) : Option (Dict String) :=
  match Bindings.find? "connectionDetails" fields with
  | none => some Dict.empty
  | some doc => doc.dict?

/-- The resource of a document. -/
def ofJson? (doc : Json) : Option Node := do
  let fields ←
    doc.record? ["id", "kind", "name", "properties", "connectionDetails", "dependsOn"]
  pure
    { id := ← Json.required? Json.text? fields "id"
      kind := ← Json.required? kindOfJson? fields "kind"
      name := ← Json.required? Json.text? fields "name"
      properties := ← Json.required? some fields "properties"
      details := ← detailsOf? fields
      dependsOn := TextSet.ofList
        (← Json.required? (Json.list? Json.text?) fields "dependsOn") }

end Node

end ClusterBlueprint
