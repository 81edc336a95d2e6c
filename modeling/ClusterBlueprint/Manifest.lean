import ClusterBlueprint.Claim.Spec
import ClusterBlueprint.Config
import ClusterBlueprint.Connection
/-!
# Manifest — resources as objects of the cluster's API

Every resource of a graph becomes one manifest: its properties are the
parameters for the provider, and its dependencies an annotation that lists
their ids. A resource that publishes details also names the secret to write
them to. A secret is no resource of the provider; its properties are the
body of the object itself and it lives in the claim's namespace, as the
connection does.
-/

namespace ClusterBlueprint

/-- What all manifests of one blueprint have in common. -/
structure Rendering where
  app : String
  environment : String
  objectNamespace : String
  providerConfig : String
deriving DecidableEq

namespace Rendering

/-- The rendering of a spec under some settings. -/
def of (spec : Spec) (config : Config) : Rendering :=
  { app := config.projectTag
    environment := spec.environmentSuffix
    objectNamespace := spec.objectNamespace
    providerConfig := spec.providerConfig }

/-- The labels of an object of a component. -/
def labels (r : Rendering) (component : String) : Json :=
  .object
    [("app", .text r.app), ("component", .text component), ("environment", .text r.environment)]

/-- The annotation that lists the ids a resource waits for, if there are
any. -/
def annotations (n : Node) : List (String × Json) :=
  if n.dependsOn.isEmpty then []
  else
    [("annotations", .object
      [("crossplane.io/depends-on", .text (",".intercalate n.dependsOn.toList))])]

/-- The field that names the secret for the details, if there are any. -/
def detailsTarget (r : Rendering) (n : Node) : List (String × Json) :=
  if n.details.isEmpty then []
  else
    [("writeConnectionSecretToRef", .object
      [("name", .text n.name), ("namespace", .text r.objectNamespace)])]

/-- The manifest of a resource of the provider. -/
def resource (r : Rendering) (n : Node) : Json :=
  .object
    [("apiVersion", .text n.kind.apiVersion),
      ("kind", .text n.kind.manifestName),
      ("metadata", .object
        (annotations n ++ [("labels", r.labels n.kind.component), ("name", .text n.name)])),
      ("spec", .object
        ([("forProvider", n.properties),
          ("providerConfigRef", .object [("name", .text r.providerConfig)])]
          ++ r.detailsTarget n))]

/-- The manifest of a secret: its properties are written over the fields
that every object has. -/
def secret (r : Rendering) (n : Node) : Json :=
  .object <| Bindings.putAll
    [("apiVersion", .text n.kind.apiVersion),
      ("kind", .text n.kind.manifestName),
      ("metadata", .object
        [("labels", r.labels n.kind.component),
          ("name", .text n.name),
          ("namespace", .text r.objectNamespace)])]
    (n.properties.fields?.getD [])

/-- The manifest of a resource. -/
def node (r : Rendering) (n : Node) : Json :=
  if n.kind = .secret then r.secret n else r.resource n

/-- The manifests of a graph, in its order. -/
def graph (r : Rendering) (g : Graph) : List Json := g.nodes.map r.node

/-- The secret manifest of a connection, in the claim's namespace. -/
def connection (r : Rendering) (c : Connection) : Json :=
  c.manifestWith <| .object
    [("labels", r.labels "connection"),
      ("name", .text c.secretName),
      ("namespace", .text r.objectNamespace)]

end Rendering

end ClusterBlueprint
