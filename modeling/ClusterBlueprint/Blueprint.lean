import ClusterBlueprint.Blueprint.Database
import ClusterBlueprint.Manifest
import ClusterBlueprint.Network.Document
import ClusterBlueprint.Password
/-!
# Blueprint — from a claim to its resources

A claim is compiled in stages: it is read and checked, its region resolved
and its blocks planned (`Scheme.of`), a password is found, and the blueprint
is drawn (`Scheme.draw`). The only thing that is not a function of the claim
and the settings is a fresh password. It is asked for at most once, only
when the claim carries none and wants one, and before the resources are
drawn, so a claim that is refused while drawing has used one up.
-/

namespace ClusterBlueprint

/-- A compiled claim. -/
structure Blueprint where
  spec : Spec
  zones : ZoneSet
  plan : Plan
  graph : Graph
  connection : Connection
  rendering : Rendering

namespace Scheme

/-- The scheme of a spec: the spec is checked, the zones are selected and
the blocks are planned. -/
def of (config : Config) (spec : Spec) : Except Fault Scheme := do
  spec.check
  let region ← Region.resolve spec.region
  let zones ← region.select spec.zoneCount
  let plan ← Plan.allocate spec.vpc spec.zoneCount spec.tiers
  pure ⟨spec, config, zones, plan⟩

/-- The resources that come before the cluster, in order. -/
def groundwork (s : Scheme) (n : Names) (password : Option String) : List Draft :=
  s.network n ++ s.access n ++ s.foundation n password

/-- Adds the cluster or a member of it. When the claim names the cluster,
the names of both must be free: a name of its own could be one that another
resource has. -/
def addMember (s : Scheme) (a : Assembly) (d : Draft) : Except Fault Assembly :=
  if s.spec.clusterName.isSome && a.containsName d.name then
    .error (.field "clusterName" (.nameTaken d.name))
  else a.add d

/-- The graph of the resources with the given names. -/
def assemble (s : Scheme) (n : Names) (password : Option String) : Except Fault Graph := do
  let ground ← (s.groundwork n password).foldlM Assembly.add Assembly.empty
  let whole ← (s.members n password).foldlM s.addMember ground
  whole.finish

/-- The graph of a scheme. -/
def draw (s : Scheme) (password : Option String) : Except Stop Graph :=
  match s.plan.allocations.mapM fun a => s.zone a.zone with
  | .error cause => .error (.fault cause)
  | .ok zones => do
    let names ← Names.of s zones
    (s.assemble names password).mapError .fault

/-- The blueprint of a scheme. -/
def blueprint (s : Scheme) (password : Option String) : Except Stop Blueprint := do
  let graph ← s.draw password
  let connection ← (Connection.ofGraph graph).mapError .fault
  pure
    { spec := s.spec
      zones := s.zones
      plan := s.plan
      graph := graph
      connection := connection
      rendering := Rendering.of s.spec s.config }

/-- The password of a blueprint: the claim's, a fresh one, or none. -/
def password {σ : Type} (s : Scheme) (source : PasswordSource σ) (state : σ) : Option String × σ :=
  match s.spec.masterPassword, s.spec.generatePassword with
  | some carried, _ => (some carried, state)
  | none, true =>
    let (fresh, state) := source.draw s.config.passwordLength state
    (some fresh, state)
  | none, false => (none, state)

end Scheme

namespace Blueprint

/-- Compiles a spec, and answers with the state of the password source
after it. -/
def ofSpec {σ : Type} (config : Config) (source : PasswordSource σ) (spec : Spec) (state : σ) :
    Except Stop Blueprint × σ :=
  match Scheme.of config spec with
  | .error cause => (.error (.fault cause), state)
  | .ok scheme =>
    let (password, state) := scheme.password source state
    (scheme.blueprint password, state)

/-- Compiles a claim. -/
def ofClaim {σ : Type} (config : Config) (source : PasswordSource σ) (claim : Json) (state : σ) :
    Except Stop Blueprint × σ :=
  match Spec.ofClaim claim with
  | .error cause => (.error (.fault cause), state)
  | .ok spec => ofSpec config source spec state

/-- The manifest of the connection. -/
def connectionManifest (b : Blueprint) : Json := b.rendering.connection b.connection

/-- The document that is handed over: zones, blocks, the manifests in the
order to apply them, and the connection, which appears only encoded. -/
def toJson (b : Blueprint) : Json :=
  .object
    [("resources", .array (b.rendering.graph b.graph)),
      ("secret", b.connectionManifest),
      ("subnets", .array (b.plan.allocations.map Allocation.toJson)),
      ("zones", .texts b.zones.zones)]

/-- The whole blueprint as a document, with the spec, the plan and the graph
that the manifests were made from. -/
def toFullJson (b : Blueprint) : Json :=
  .object
    [("graph", b.graph.toJson),
      ("plan", b.plan.toJson),
      ("secret", b.connection.toJson),
      ("spec", b.spec.toJson),
      ("zones", b.zones.toJson)]

end Blueprint

end ClusterBlueprint
