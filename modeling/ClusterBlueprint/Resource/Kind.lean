/-!
# Resource — the kinds of resources

A blueprint is made of sixteen kinds of resources, in three groups:
network, access and database. This file is the table of what a kind fixes
for each of its resources: the provider's API, the token in names, the
component label, the policy of its names, and whether it carries tags.
-/

namespace ClusterBlueprint

/-- How resources of a kind are named: by the environment, in place, or by
version and content, so that a change makes a new resource. -/
inductive NamingPolicy where
  | suffix
  | versionedHash
deriving DecidableEq

/-- The kind of a resource. -/
inductive ResourceKind where
  | vpc | internetGateway | subnet | routeTable | route | routeTableAssociation
  | securityGroup | securityGroupRule | role | rolePolicyAttachment
  | clusterParameterGroup | parameterGroup | subnetGroup | secret | cluster | clusterInstance
deriving DecidableEq

namespace ResourceKind

/-- Every kind, network first and database last. -/
def all : List ResourceKind :=
  [.vpc, .internetGateway, .subnet, .routeTable, .route, .routeTableAssociation,
    .securityGroup, .securityGroupRule, .role, .rolePolicyAttachment,
    .clusterParameterGroup, .parameterGroup, .subnetGroup, .secret, .cluster,
    .clusterInstance]

/-- The kind as a graph document spells it. -/
def documentName : ResourceKind → String
  | .vpc => "vpc"
  | .internetGateway => "internet_gateway"
  | .subnet => "subnet"
  | .routeTable => "route_table"
  | .route => "route"
  | .routeTableAssociation => "route_table_association"
  | .securityGroup => "security_group"
  | .securityGroupRule => "security_group_rule"
  | .role => "role"
  | .rolePolicyAttachment => "role_policy_attachment"
  | .clusterParameterGroup => "cluster_parameter_group"
  | .parameterGroup => "parameter_group"
  | .subnetGroup => "subnet_group"
  | .secret => "secret"
  | .cluster => "cluster"
  | .clusterInstance => "cluster_instance"

/-- The kind as a manifest spells it. -/
def manifestName : ResourceKind → String
  | .vpc => "VPC"
  | .internetGateway => "InternetGateway"
  | .subnet => "Subnet"
  | .routeTable => "RouteTable"
  | .route => "Route"
  | .routeTableAssociation => "RouteTableAssociation"
  | .securityGroup => "SecurityGroup"
  | .securityGroupRule => "SecurityGroupRule"
  | .role => "Role"
  | .rolePolicyAttachment => "RolePolicyAttachment"
  | .clusterParameterGroup => "ClusterParameterGroup"
  | .parameterGroup => "ParameterGroup"
  | .subnetGroup => "SubnetGroup"
  | .secret => "Secret"
  | .cluster => "Cluster"
  | .clusterInstance => "ClusterInstance"

/-- What stands for the kind in a resource's name. -/
def token : ResourceKind → String
  | .vpc => "vpc"
  | .internetGateway => "igw"
  | .subnet => "subnet"
  | .routeTable => "route-table"
  | .route => "route"
  | .routeTableAssociation => "route-assoc"
  | .securityGroup => "security-group"
  | .securityGroupRule => "sg-rule"
  | .role => "monitoring-role"
  | .rolePolicyAttachment => "monitoring-policy"
  | .clusterParameterGroup => "cluster-params"
  | .parameterGroup => "instance-params"
  | .subnetGroup => "subnet-group"
  | .secret => "password"
  | .cluster => "cluster"
  | .clusterInstance => "instance"

/-- The version of the API that a manifest of the kind is written for. -/
def apiVersion : ResourceKind → String
  | .vpc | .internetGateway | .subnet | .routeTable | .route | .routeTableAssociation
  | .securityGroup | .securityGroupRule => "ec2.aws.upbound.io/v1beta1"
  | .role | .rolePolicyAttachment => "iam.aws.upbound.io/v1beta1"
  | .secret => "v1"
  | .clusterParameterGroup | .parameterGroup | .subnetGroup | .cluster
  | .clusterInstance => "rds.aws.upbound.io/v1beta1"

/-- The component that the kind belongs to. -/
def component : ResourceKind → String
  | .vpc | .internetGateway | .subnet | .routeTable | .route
  | .routeTableAssociation => "network"
  | .securityGroup | .securityGroupRule | .role | .rolePolicyAttachment => "security"
  | .clusterParameterGroup | .parameterGroup | .subnetGroup | .secret | .cluster
  | .clusterInstance => "database"

/-- Parameter groups are replaced when their content changes; everything
else is updated in place. -/
def namingPolicy : ResourceKind → NamingPolicy
  | .clusterParameterGroup | .parameterGroup => .versionedHash
  | _ => .suffix

/-- Whether the provider keeps tags on resources of the kind. -/
def isTaggable : ResourceKind → Bool
  | .route | .routeTableAssociation | .securityGroupRule | .rolePolicyAttachment
  | .secret => false
  | _ => true

/-- The kind that a graph document spells so. -/
def ofDocumentName? (name : String) : Option ResourceKind :=
  all.find? fun kind => kind.documentName = name

/-- Every kind is in the table. -/
theorem mem_all (kind : ResourceKind) : kind ∈ all := by cases kind <;> decide

/-- The spelling of a kind in documents is its own. -/
theorem ofDocumentName?_documentName (kind : ResourceKind) :
    ofDocumentName? kind.documentName = some kind := by
  cases kind <;> decide

end ResourceKind

end ClusterBlueprint
