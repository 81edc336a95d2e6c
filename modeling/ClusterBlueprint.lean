import ClusterBlueprint.Main
import ClusterBlueprint.Reconcile
import ClusterBlueprint.Proofs.Graph.Runs
import ClusterBlueprint.Proofs.Claim.Checked
import ClusterBlueprint.Proofs.Blueprint.Outcome
import ClusterBlueprint.Proofs.Claim.Carried
import ClusterBlueprint.Proofs.Blueprint.Replay
import ClusterBlueprint.Proofs.Reconcile.Stability
import ClusterBlueprint.Proofs.Graph.Extension
import ClusterBlueprint.Proofs.Blueprint.Growth
import ClusterBlueprint.Proofs.Claim.Defaults
import ClusterBlueprint.Proofs.Blueprint.Renaming
import ClusterBlueprint.Proofs.Blueprint.SuffixNames
import ClusterBlueprint.Proofs.Blueprint.Environments
import ClusterBlueprint.Proofs.Manifest.Rendered
import ClusterBlueprint.Proofs.Json.References
import ClusterBlueprint.Proofs.Json.ReferencePaths
import ClusterBlueprint.Proofs.Manifest.Objects
import ClusterBlueprint.Proofs.Manifest.ApplyOrder
import ClusterBlueprint.Proofs.Blueprint.Routing
import ClusterBlueprint.Proofs.Blueprint.Tags
import ClusterBlueprint.Proofs.Manifest.Agreement
import ClusterBlueprint.Proofs.Manifest.Redacted
import ClusterBlueprint.Proofs.Blueprint.TagsInert
import ClusterBlueprint.Proofs.Blueprint.NameLength
import ClusterBlueprint.Proofs.Claim.Blame
import ClusterBlueprint.Proofs.Claim.Canonical
import ClusterBlueprint.Proofs.Claim.Normal
import ClusterBlueprint.Proofs.Manifest.CarriedPassword
import ClusterBlueprint.Proofs.Blueprint.EngineVersion
import ClusterBlueprint.Proofs.Graph.Outcome
import ClusterBlueprint.Proofs.Schedule.Overlap
import ClusterBlueprint.Proofs.Schedule.WindowForms
import ClusterBlueprint.Proofs.Network.Allocation
import ClusterBlueprint.Proofs.Network.Tiling
import ClusterBlueprint.Proofs.Network.Nesting
import ClusterBlueprint.Proofs.Password.Supply
import ClusterBlueprint.Proofs.Graph.Calls
import ClusterBlueprint.Proofs.Graph.Ordering
import ClusterBlueprint.Proofs.Graph.Queue
import ClusterBlueprint.Proofs.Blueprint.ClaimNames
import ClusterBlueprint.Proofs.Blueprint.MemberLabels
import ClusterBlueprint.Proofs.Graph.Document
