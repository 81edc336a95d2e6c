import ClusterBlueprint.Blueprint.Access
import ClusterBlueprint.Connection
/-!
# Blueprint — the database

Parameter groups, the subnet group and the secret with the password come
before the cluster that refers to them, and the cluster before its members.
Without a password there is no secret, and the provider manages the
password instead.
-/

namespace ClusterBlueprint

namespace Scheme

/-- The engine of the cluster and its members. -/
def engine : Json := .text "aurora-postgresql"

/-- The properties of a parameter group. -/
def parameterGroup (s : Scheme) (kind : ResourceKind) (name description : String) : Json :=
  .object
    [("description", .text description),
      ("family", .text s.spec.parameterFamily),
      ("parameter", s.parameters),
      ("region", s.region),
      ("tags", s.tags kind name)]

/-- The parameters of the cluster. -/
def clusterParameters (s : Scheme) (n : Names) : Draft where
  id := "cluster-parameter-group"
  kind := .clusterParameterGroup
  name := n.clusterParameters
  properties := s.parameterGroup .clusterParameterGroup n.clusterParameters
    "Cluster parameters for the vector extension"

/-- The parameters of the members. -/
def instanceParameters (s : Scheme) (n : Names) : Draft where
  id := "parameter-group"
  kind := .parameterGroup
  name := n.instanceParameters
  properties := s.parameterGroup .parameterGroup n.instanceParameters
    "Instance parameters for the vector extension"

/-- The subnet group of the cluster. -/
def subnetGroup (s : Scheme) (n : Names) : Draft where
  id := "subnet-group"
  kind := .subnetGroup
  name := n.subnetGroup
  properties := .object
    [("description", .text ("Database subnets for " ++ n.cluster)),
      ("region", s.region),
      ("subnetIdRefs", .array (n.databaseSubnets.map Draft.ref)),
      ("tags", s.tags .subnetGroup n.subnetGroup)]

/-- The secret with the password, which it also publishes. -/
def secret (n : Names) (password : String) : Draft where
  id := "master-password"
  kind := .secret
  name := n.secret
  properties := .object
    [("data", .object [(passwordKey, .text (Base64.encode password))]),
      ("type", .text "Opaque")]
  details := Dict.ofList [(passwordKey, password)]

/-- The field of the cluster that says where its password comes from. -/
def passwordSource (s : Scheme) (n : Names) (password : Option String) : String × Json :=
  match password with
  | some _ =>
    ("masterPasswordSecretRef", .object
      [("key", .text passwordKey),
        ("name", .text n.secret),
        ("namespace", .text s.spec.objectNamespace)])
  | none => ("manageMasterUserPassword", .bool true)

/-- What the cluster publishes. -/
def clusterDetails (s : Scheme) (n : Names) : Dict String :=
  Dict.ofList
    [("clusterIdentifier", n.cluster),
      ("endpoint", Naming.writerEndpoint n.cluster s.spec.region),
      ("port", toString s.config.dbPort),
      ("readerEndpoint", Naming.readerEndpoint n.cluster s.spec.region),
      ("username", s.spec.masterUser)]

/-- The cluster. -/
def cluster (s : Scheme) (n : Names) (password : Option String) : Draft where
  id := "cluster"
  kind := .cluster
  name := n.cluster
  properties := .object
    [("backupRetentionPeriod", .nat s.spec.retentionDays),
      ("copyTagsToSnapshot", .bool true),
      ("databaseName", .text s.spec.databaseName),
      ("dbClusterParameterGroupNameRef", Draft.ref n.clusterParameters),
      ("dbSubnetGroupNameRef", Draft.ref n.subnetGroup),
      ("deletionProtection", .bool s.spec.deletionProtection),
      ("engine", engine),
      ("engineMode", .text "provisioned"),
      ("engineVersion", .text s.spec.engineVersion),
      ("finalSnapshotIdentifier", .text (n.cluster ++ "-final-snapshot")),
      ("iamDatabaseAuthenticationEnabled", .bool false),
      s.passwordSource n password,
      ("masterUsername", .text s.spec.masterUser),
      ("port", .nat s.config.dbPort),
      ("preferredBackupWindow", .text s.spec.backupWindow.text),
      ("preferredMaintenanceWindow", .text s.spec.maintenanceWindow.text),
      ("region", s.region),
      ("serverlessv2ScalingConfiguration", .array
        [.object
          [("maxCapacity", .decimal s.spec.maxCapacity),
            ("minCapacity", .decimal s.spec.minCapacity)]]),
      ("skipFinalSnapshot", .bool false),
      ("storageEncrypted", .bool true),
      ("tags", s.tags .cluster n.cluster),
      ("vpcSecurityGroupIdRefs", .array [Draft.ref n.securityGroup])]
  details := s.clusterDetails n

/-- The fields of a member that concern monitoring. -/
def monitoringFields (s : Scheme) (n : Names) : List (String × Json) :=
  if s.isMonitored then
    [("monitoringInterval", .nat s.config.monitoringInterval),
      ("monitoringRoleArnRef", Draft.ref n.role)]
  else []

/-- The member of an index, counted from zero; its id counts from one. -/
def clusterInstance (s : Scheme) (n : Names) (name : String) (index : Nat) : Draft where
  id := "instance-" ++ toString (index + 1)
  kind := .clusterInstance
  name := name
  properties := .object <|
    [("autoMinorVersionUpgrade", .bool true),
      ("clusterIdentifierRef", Draft.ref n.cluster),
      ("dbParameterGroupNameRef", Draft.ref n.instanceParameters),
      ("engine", engine),
      ("instanceClass", .text s.spec.instanceClass)]
    ++ s.monitoringFields n
    ++ [("performanceInsightsEnabled", .bool true),
      ("performanceInsightsRetentionPeriod", .nat s.config.insightsRetention),
      ("promotionTier", .nat index),
      ("publiclyAccessible", .bool s.spec.publiclyAccessible),
      ("region", s.region),
      ("tags", s.tags .clusterInstance name)]

/-- What the cluster is built on, in order. -/
def foundation (s : Scheme) (n : Names) (password : Option String) : List Draft :=
  [s.clusterParameters n, s.instanceParameters n, s.subnetGroup n]
    ++ (password.map (secret n)).toList

/-- The cluster and its members, in order. -/
def members (s : Scheme) (n : Names) (password : Option String) : List Draft :=
  s.cluster n password :: n.instances.mapIdx fun i name => s.clusterInstance n name i

end Scheme

end ClusterBlueprint
