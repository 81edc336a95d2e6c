import ClusterBlueprint.Blueprint.Network
/-!
# Blueprint — access

The security group lets the claim's sources in at the database port and
everything out. The monitoring role and its policy exist only when enhanced
monitoring is on.
-/

namespace ClusterBlueprint

namespace Scheme

/-- The security group of the cluster. -/
def securityGroup (s : Scheme) (n : Names) : Draft where
  id := "security-group"
  kind := .securityGroup
  name := n.securityGroup
  properties := .object
    [("description", .text ("PostgreSQL access for " ++ n.cluster)),
      ("name", .text n.securityGroup),
      ("region", s.region),
      ("tags", s.tags .securityGroup n.securityGroup),
      ("vpcIdRef", Draft.ref n.vpc)]

/-- The properties of a rule of the security group. -/
def rule (s : Scheme) (n : Names) (direction protocol description : String) (port : Nat)
    (blocks : List AddressBlock) : Json :=
  .object
    [("cidrBlocks", .texts (blocks.map AddressBlock.text)),
      ("description", .text description),
      ("fromPort", .nat port),
      ("protocol", .text protocol),
      ("region", s.region),
      ("securityGroupIdRef", Draft.ref n.securityGroup),
      ("toPort", .nat port),
      ("type", .text direction)]

/-- The rule that lets the sources in. -/
def ingress (s : Scheme) (n : Names) : Draft where
  id := "security-group-ingress"
  kind := .securityGroupRule
  name := n.ingress
  properties := s.rule n "ingress" "tcp" "PostgreSQL access" s.config.dbPort s.spec.sources

/-- The rule that lets everything out. -/
def egress (s : Scheme) (n : Names) : Draft where
  id := "security-group-egress"
  kind := .securityGroupRule
  name := n.egress
  properties := s.rule n "egress" "-1" "Allow all outbound traffic" 0 [AddressBlock.all]

/-- Whether enhanced monitoring is on. -/
def isMonitored (s : Scheme) : Bool := s.config.monitoringInterval ≠ 0

/-- Who may take on the monitoring role. -/
def trustPolicy : Json :=
  .object
    [("Statement", .array
      [.object
        [("Action", .text "sts:AssumeRole"),
          ("Effect", .text "Allow"),
          ("Principal", .object [("Service", .text "monitoring.rds.amazonaws.com")])]]),
      ("Version", .text "2012-10-17")]

/-- The role of enhanced monitoring. -/
def role (s : Scheme) (n : Names) : Draft where
  id := "monitoring-role"
  kind := .role
  name := n.role
  properties := .object
    [("assumeRolePolicy", .text trustPolicy.compact),
      ("description", .text "Enhanced monitoring for Aurora"),
      ("tags", s.tags .role n.role)]

/-- The policy of the monitoring role. -/
def rolePolicy (s : Scheme) (n : Names) : Draft where
  id := "monitoring-policy"
  kind := .rolePolicyAttachment
  name := n.rolePolicy
  properties := .object
    [("policyArn", .text s.config.monitoringPolicy), ("roleRef", Draft.ref n.role)]

/-- The resources of access, in order. -/
def access (s : Scheme) (n : Names) : List Draft :=
  [s.securityGroup n, s.ingress n, s.egress n]
    ++ if s.isMonitored then [s.role n, s.rolePolicy n] else []

end Scheme

end ClusterBlueprint
