import ClusterBlueprint.Graph
/-!
# Graph — putting a graph together

An assembly takes resources one after the other and works out their
dependencies from their references, so a reference has to name a resource
that was added before. A resource that is refused leaves the assembly as it
was. Two resources of one name are noticed only at the end, when the list
becomes a graph; until then the name stands for the later one.
-/

namespace ClusterBlueprint

/-- A resource before its dependencies are known. -/
structure Draft where
  id : String
  kind : ResourceKind
  name : String
  properties : Json
  details : Dict String := Dict.empty

/-- The resources added so far, in order. -/
structure Assembly where
  nodes : List Node

namespace Assembly

/-- Nothing added yet. -/
def empty : Assembly := ⟨[]⟩

/-- Whether a resource of the name was added. -/
def containsName (a : Assembly) (name : String) : Bool := a.nodes.any fun n => n.name = name

/-- The id of the resource that was last added under a name. -/
def idOf? (a : Assembly) (name : String) : Option String :=
  (a.nodes.reverse.find? fun n => n.name = name).map Node.id

/-- The ids that the properties of a draft refer to. -/
def dependencies (a : Assembly) (d : Draft) : Except Fault TextSet := do
  let ids ← (TextSet.ofList d.properties.references).toList.mapM fun name =>
    match a.idOf? name with
    | some id => Except.ok id
    | none => .error (.graph (.earlyReference d.id name))
  pure (TextSet.ofList ids)

/-- Adds a resource at the end. -/
def add (a : Assembly) (d : Draft) : Except Fault Assembly := do
  let dependsOn ← a.dependencies d
  pure ⟨a.nodes ++ [⟨d.id, d.kind, d.name, d.properties, d.details, dependsOn⟩]⟩

/-- The graph of the resources added. -/
def finish (a : Assembly) : Except Fault Graph := Graph.ofNodes a.nodes

end Assembly

end ClusterBlueprint
