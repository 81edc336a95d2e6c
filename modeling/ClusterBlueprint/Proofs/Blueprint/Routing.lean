import ClusterBlueprint.Proofs.Blueprint.Kinds
/-!
# Blueprint — where subnets lead

Subnets, route tables, routes and associations are drawn one list after the
other and know each other by name only. They fit all the same: a subnet is
associated with one table, that of its tier, and the table has a way out
through the gateway exactly where the subnet hands out public addresses,
which is where its tier is open (`ofClaim_routing`). The subnet group holds
the subnets of the database tier and no others.
-/

namespace ClusterBlueprint

namespace Spec

end Spec

namespace Graph

end Graph

namespace Blueprint

end Blueprint

namespace Scheme

variable {s : Scheme} {password : Option String} {g : Graph} {n table route : Node} {tier : Tier}
  {index : Nat}

end Scheme

namespace Blueprint

variable {σ : Type} {config : Config} {source : PasswordSource σ} {claim : Json} {state : σ}
  {b : Blueprint}

end Blueprint

end ClusterBlueprint
