import ClusterBlueprint.Claim.Spec
import ClusterBlueprint.Config
import ClusterBlueprint.Json.Printer
import ClusterBlueprint.Sha256
/-!
# Naming — names and tags of resources

A name is put together from the claim's name and a tail. The tail of most
resources is the kind, a further part where there are several of a kind,
and the environment, so the name stays as long as the environment does.
Parameter groups end in a version and a digest of their content instead:
when the content changes, so does the name, and the group is replaced.

The provider takes names of at most 63 bytes. A longer one keeps its tail
and loses the end of the claim's name, for which the first digits of the
digest of the whole name stand in. A cut that would fall inside a
character gives no name: the functions answer `none`.

Tags are the four that every resource has, with the caller's tags written
over them.
-/

namespace ClusterBlueprint

namespace Naming

/-- The longest name that the provider takes, in bytes. -/
def longestName : Nat := 63

/-- The digits of the digest in a shortened name. -/
def digestLength : Nat := 8

/-- The digits that stand in for the end of a name's start. -/
def shortDigest (name : String) : String :=
  String.ofList ((Sha256.hexOfText name).take digestLength)

/-- The first `n` bytes of a text, without the hyphens at their end. -/
def cut? (n : Nat) (s : String) : Option (List Char) :=
  (Text.takeBytes? (min n s.utf8ByteSize) s.toList).map (Text.dropEndWhile (· = '-'))

/-- A shortened name: what is kept of the start, the digits and the tail. -/
def join (kept : List Char) (digits tail : String) : String :=
  if kept = [] then digits ++ tail else String.ofList kept ++ "-" ++ digits ++ tail

/-- A start and a tail as one name, with the start shortened if the name
would be too long. -/
def fit? (start tail : String) : Option String :=
  let full := start ++ tail
  if full.utf8ByteSize ≤ longestName then some full
  else
    let room := longestName - (tail.utf8ByteSize + digestLength + 1)
    (cut? room start).map fun kept => join kept (shortDigest full) tail

/-- The name of the `ordinal`-th member of a cluster, counted from one. The
cluster's name is cut so that the number stays. -/
def instanceName? (cluster : String) (ordinal : Nat) : Option String :=
  let tail := "-instance-" ++ toString ordinal
  (cut? (longestName - tail.utf8ByteSize) cluster).map fun kept => String.ofList kept ++ tail

/-- The address of the cluster's writer. -/
def writerEndpoint (cluster region : String) : String :=
  cluster ++ ".cluster-" ++ region ++ ".rds.amazonaws.com"

/-- The address of the cluster's readers. -/
def readerEndpoint (cluster region : String) : String :=
  cluster ++ ".cluster-ro-" ++ region ++ ".rds.amazonaws.com"

end Naming

/-- What the names and tags of one blueprint are made from. -/
structure Namer where
  claimName : String
  suffix : String
  project : String
  hashLength : Nat
  tags : Dict String
deriving DecidableEq

namespace Namer

/-- The namer of a spec under some settings. -/
def of (spec : Spec) (config : Config) : Namer :=
  { claimName := spec.claimName
    suffix := spec.environmentSuffix
    project := config.projectTag
    hashLength := config.hashLength
    tags := spec.tags }

/-- The tail of a name by environment. -/
def tail (n : Namer) (kind : ResourceKind) (extra : Option String) : String :=
  "-" ++ kind.token ++ (match extra with
    | some part => "-" ++ part
    | none => "") ++ "-" ++ n.suffix

/-- The name by environment of a resource. -/
def name? (n : Namer) (kind : ResourceKind) (extra : Option String) : Option String :=
  Naming.fit? n.claimName (n.tail kind extra)

/-- The digits that stand for a content in a name. -/
def contentDigest (n : Namer) (content : Json) : String :=
  String.ofList ((Sha256.hexOfText content.compact).take n.hashLength)

/-- The tail of a name by version and content. -/
def versionedTail (n : Namer) (kind : ResourceKind) (version : String) (content : Json) : String :=
  "-" ++ kind.token ++ "-" ++ version ++ "-" ++ n.contentDigest content

/-- Refuses a kind that is not named by version and content. -/
def checkVersioned (kind : ResourceKind) : Except Fault Unit :=
  if kind.namingPolicy = .versionedHash then .ok () else .error (.namingPolicy kind)

/-- The name that a version and a content give, whatever the kind. -/
def versionedName? (n : Namer) (kind : ResourceKind) (version : String) (content : Json) :
    Option String :=
  Naming.fit? n.claimName (n.versionedTail kind version content)

/-- The name by version and content of a resource. A kind that is not named
so is refused. -/
def versionedName (n : Namer) (kind : ResourceKind) (version : String) (content : Json) :
    Except Stop String := do
  (checkVersioned kind).mapError .fault
  Stop.whole (n.versionedName? kind version content)

/-- The tags that every resource of a kind has. -/
def coreTags (n : Namer) (kind : ResourceKind) (name : String) : Dict String :=
  Dict.ofList
    [("Component", kind.component), ("Environment", n.suffix), ("Name", name),
      ("Project", n.project)]

/-- The tags of a resource: the core tags, with the caller's over them. -/
def tagsOf (n : Namer) (kind : ResourceKind) (name : String) : Dict String :=
  (n.coreTags kind name).merge n.tags

end Namer

end ClusterBlueprint
