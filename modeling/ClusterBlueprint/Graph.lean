import ClusterBlueprint.Graph.Order
/-!
# Graph — lists of resources that can be applied in order

A graph is a list of resources in the order in which they are applied. Ids
and names are distinct, each resource depends on exactly the ones that its
properties refer to, and those come before it. `Graph.check` finds the
first way in which a list falls short of that, and a `Graph` is a list for
which it finds none. A graph is kept as a document, and a document whose
list falls short is not read.
-/

namespace ClusterBlueprint

namespace Graph

/-- Refuses a resource whose id or name an earlier one has. -/
def checkDistinct : (ids names : List String) → List Node → Except Fault Unit
  | _, _, [] => .ok ()
  | ids, names, n :: rest =>
    if n.id ∈ ids then .error (.graph (.repeatedId n.id))
    else if n.name ∈ names then .error (.graph (.repeatedName n.name))
    else checkDistinct (n.id :: ids) (n.name :: names) rest

/-- The id of the resource of a name. -/
def idOf? (nodes : List Node) (name : String) : Option String :=
  (nodes.find? fun n => n.name = name).map Node.id

/-- The ids of the resources that a resource refers to. -/
def referredIds (nodes : List Node) (n : Node) : Except Fault TextSet := do
  let ids ← n.references.toList.mapM fun name =>
    match idOf? nodes name with
    | some id => Except.ok id
    | none => .error (.graph (.unknownName n.id name))
  pure (TextSet.ofList ids)

/-- Refuses a resource whose dependencies are not the ones that it refers
to, or do not all come before it. -/
def checkDependencies (nodes : List Node) (earlier : List String) (n : Node) :
    Except Fault Unit := do
  let referred ← referredIds nodes n
  if referred ≠ n.dependsOn then
    throw (.graph (.otherDependencies n.id n.dependsOn referred))
  match n.dependsOn.toList.find? fun d => d ∉ earlier with
  | some d => throw (.graph (.laterDependency n.id d))
  | none => pure ()

/-- Checks the resources one after the other. -/
def checkAll (nodes : List Node) : (earlier : List String) → List Node → Except Fault Unit
  | _, [] => .ok ()
  | earlier, n :: rest => do
    checkDependencies nodes earlier n
    checkAll nodes (n.id :: earlier) rest

/-- Everything that a graph requires of its list of resources. -/
def check (nodes : List Node) : Except Fault Unit := do
  checkDistinct [] [] nodes
  checkAll nodes [] nodes
  let _ ← orderOf nodes
  pure ()

end Graph

/-- A list of resources that can be applied in order. -/
structure Graph where
  nodes : List Node
  sound : Graph.check nodes = .ok ()

namespace Graph

/-- The graph of a list of resources. -/
def ofNodes (nodes : List Node) : Except Fault Graph :=
  match h : check nodes with
  | .ok () => .ok ⟨nodes, h⟩
  | .error fault => .error fault

/-- The resource of an id. -/
def get? (g : Graph) (id : String) : Option Node := g.nodes.find? fun n => n.id = id

/-- The resource of a name. -/
def findByName? (g : Graph) (name : String) : Option Node :=
  g.nodes.find? fun n => n.name = name

/-- The resources of a kind. -/
def ofKind (g : Graph) (kind : ResourceKind) : List Node := g.nodes.filter fun n => n.kind = kind

/-- The first resource of a kind. -/
def firstOfKind? (g : Graph) (kind : ResourceKind) : Option Node :=
  g.nodes.find? fun n => n.kind = kind

/-- The ids in an order in which each follows its dependencies. -/
def order (g : Graph) : Except Fault (List String) := orderOf g.nodes

/-- A graph as a document. -/
def toJson (g : Graph) : Json := .object [("nodes", .array (g.nodes.map Node.toJson))]

/-- The graph of a document; its list of resources has to pass the check. -/
def ofJson? (doc : Json) : Option Graph := do
  let fields ← doc.record? ["nodes"]
  let nodes ← Json.required? (Json.list? Node.ofJson?) fields "nodes"
  (ofNodes nodes).toOption

/-- A list of resources that passes the check is the graph's list. -/
theorem nodes_of_ofNodes {nodes : List Node} {g : Graph} (h : ofNodes nodes = .ok g) :
    g.nodes = nodes := by
  unfold ofNodes at h
  split at h
  · cases h; rfl
  · cases h

end Graph

end ClusterBlueprint
