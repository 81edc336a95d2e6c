import ClusterBlueprint.Base64
import ClusterBlueprint.Graph
/-!
# Connection — what a client needs to know

A client of the database needs its addresses, its names and a password.
All of it stands somewhere in the graph: the cluster publishes its details,
the password is published by the secret that the cluster refers to, and the
network and the subnet group contribute their names. `Connection.ofGraph`
gathers them; a graph that lacks one of them is incomplete.
-/

namespace ClusterBlueprint

/-- The key of the password in a secret. -/
def passwordKey : String := "password"

/-- What a client needs to know. -/
structure Connection where
  writerEndpoint : String
  readerEndpoint : String
  clusterId : String
  /-- Absent when the provider manages the password. -/
  masterPassword : Option String
  vpcId : String
  subnetGroup : String
  masterUser : String
  port : String
  databaseName : String
deriving DecidableEq

namespace Connection

/-- The first resource of a kind, which has to exist. -/
def require (g : Graph) (kind : ResourceKind) : Except Fault Node :=
  match g.firstOfKind? kind with
  | some n => .ok n
  | none => .error (.graph (.missingKind kind))

/-- A detail that a resource has to publish. -/
def detail (n : Node) (key : String) : Except Fault String :=
  match n.details.get? key with
  | some value => .ok value
  | none => .error (.graph (.missingDetail n.id key))

/-- The name of the secret that a cluster refers to. -/
def secretName? (cluster : Node) : Option String := do
  (← cluster.property? "masterPasswordSecretRef").referredName?

/-- The password that the secret of a cluster publishes. -/
def password (g : Graph) (cluster : Node) : Except Fault (Option String) :=
  match secretName? cluster with
  | none => .ok none
  | some name =>
    match (g.findByName? name).filter fun n => n.kind = .secret with
    | none => .error (.graph (.missingSecret name))
    | some secret => (detail secret passwordKey).map some

/-- The name of the first database, empty if the cluster names none. -/
def databaseOf (cluster : Node) : String :=
  ((cluster.property? "databaseName").bind Json.text?).getD ""

/-- Gathers the connection from a graph. -/
def ofGraph (g : Graph) : Except Fault Connection := do
  let vpc ← require g .vpc
  let subnetGroup ← require g .subnetGroup
  let cluster ← require g .cluster
  let masterPassword ← password g cluster
  let writerEndpoint ← detail cluster "endpoint"
  let readerEndpoint ← detail cluster "readerEndpoint"
  let clusterId ← detail cluster "clusterIdentifier"
  let masterUser ← detail cluster "username"
  let port ← detail cluster "port"
  pure
    { writerEndpoint := writerEndpoint
      readerEndpoint := readerEndpoint
      clusterId := clusterId
      masterPassword := masterPassword
      vpcId := vpc.name
      subnetGroup := subnetGroup.name
      masterUser := masterUser
      port := port
      databaseName := databaseOf cluster }

/-- The values under their keys, in ascending order. Every key is there; a
password that the provider manages is an empty value. -/
def entries (c : Connection) : List (String × String) :=
  [("clusterEndpoint", c.writerEndpoint),
    ("clusterId", c.clusterId),
    ("clusterReaderEndpoint", c.readerEndpoint),
    ("databaseName", c.databaseName),
    ("masterPassword", c.masterPassword.getD ""),
    ("masterUsername", c.masterUser),
    ("port", c.port),
    ("subnetGroupName", c.subnetGroup),
    ("vpcId", c.vpcId)]

/-- The name of the secret that carries the connection. -/
def secretName (c : Connection) : String := c.clusterId ++ "-connection"

/-- The values of a secret, encoded. -/
def encodedData (c : Connection) : Json :=
  .object (c.entries.map fun (key, value) => (key, .text (Base64.encode value)))

/-- A secret manifest with the connection, and the given metadata. -/
def manifestWith (c : Connection) (metadata : Json) : Json :=
  .object
    [("apiVersion", .text "v1"),
      ("data", c.encodedData),
      ("kind", .text "Secret"),
      ("metadata", metadata),
      ("type", .text "Opaque")]

/-- A secret manifest under a name in a namespace. -/
def manifest (c : Connection) (name objectNamespace : String) : Json :=
  c.manifestWith (.object [("name", .text name), ("namespace", .text objectNamespace)])

/-- The connection as a document. -/
def toJson (c : Connection) : Json :=
  .object
    [("clusterEndpoint", .text c.writerEndpoint),
      ("clusterId", .text c.clusterId),
      ("clusterReaderEndpoint", .text c.readerEndpoint),
      ("databaseName", .text c.databaseName),
      ("masterPassword", .ofText? c.masterPassword),
      ("masterUsername", .text c.masterUser),
      ("port", .text c.port),
      ("subnetGroupName", .text c.subnetGroup),
      ("vpcId", .text c.vpcId)]

/-- The connection of a document. -/
def ofJson? (doc : Json) : Option Connection := do
  let fields ← doc.record? ["clusterEndpoint", "clusterReaderEndpoint", "clusterId",
    "masterPassword", "vpcId", "subnetGroupName", "masterUsername", "port", "databaseName"]
  let text := Json.required? Json.text? fields
  pure
    { writerEndpoint := ← text "clusterEndpoint"
      readerEndpoint := ← text "clusterReaderEndpoint"
      clusterId := ← text "clusterId"
      masterPassword := ← Json.optional? Json.text? fields "masterPassword"
      vpcId := ← text "vpcId"
      subnetGroup := ← text "subnetGroupName"
      masterUser := ← text "masterUsername"
      port := ← text "port"
      databaseName := ← text "databaseName" }

end Connection

end ClusterBlueprint
