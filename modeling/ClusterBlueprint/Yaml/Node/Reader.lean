import ClusterBlueprint.Yaml.Node
import ClusterBlueprint.Yaml.Token
/-!
# Yaml — the nodes that tokens make

In a block every list, mapping and item is delimited by tokens, with one
exception: a list that is the value of a field may stand at the column of
its field, and then it ends with its last item. In flow, a key with a value
may be an item of a list and is then a mapping of its own. What is left out
is an empty scalar.

The recursion counts steps. Every two of them take a token off the list, so
twice its length suffices.
-/

namespace ClusterBlueprint

namespace Yaml

/-- What is left of the tokens, and the anchors so far. -/
structure Reading where
  tokens : List Token
  anchors : Anchors

/-- A reader of nodes. It may refuse. -/
abbrev NodeReader := StateT Reading Option

/-- What the handles of tags stand for. -/
abbrev Handles := List (List Char × List UInt8)

namespace NodeReader

/-- The next token, if there is one. -/
def peek : NodeReader (Option Token) := do return (← get).tokens.head?

/-- Takes the next token off. -/
def skip : NodeReader Unit := modify fun r => { r with tokens := r.tokens.drop 1 }

/-- The next token, taken off. -/
def next : NodeReader (Option Token) := do
  let token ← peek
  skip
  return token

/-- The slot of an alias. -/
def slotOf (name : List Char) : NodeReader Nat := do
  match (← get).anchors.slot? name with
  | some slot => return slot
  | none => failure

/-- The tag that a written one stands for. -/
def tagOf (handles : Handles) (written : WrittenTag) : NodeReader Tag :=
  if written.handle.isEmpty then return written.octets
  else
    match handles.lookup written.handle with
    | some octets => return octets ++ written.octets
    | none => failure

/-- An anchor and a tag in either order, each of which may be missing. -/
def readProperties : NodeReader (Option (List Char) × Option WrittenTag) := do
  match ← peek with
  | some (.anchor name) =>
    skip
    match ← peek with
    | some (.tag tag) => skip; return (some name, some tag)
    | _ => return (some name, none)
  | some (.tag tag) =>
    skip
    match ← peek with
    | some (.anchor name) => skip; return (some name, some tag)
    | _ => return (none, some tag)
  | _ => return (none, none)

/-- Reads a node, and gives it a name if there is one. The name is known
inside the node. -/
def withAnchor (anchor : Option (List Char)) (node : NodeReader Node) : NodeReader Node := do
  match anchor with
  | none => node
  | some name =>
    let number := (← get).anchors.count
    modify fun r => { r with anchors := r.anchors.define name }
    let node ← node
    modify fun r => { r with anchors := r.anchors.complete number node }
    return node

mutual

/-- A node. Only `inBlock` it may be a list or a mapping of a block, and only
if `atField` a list whose items stand at the column of the field. -/
def readNode (handles : Handles) (steps : Nat) (inBlock atField : Bool) : NodeReader Node :=
  match steps with
  | 0 => failure
  | steps + 1 => do
    if let some (.aliasTo name) ← peek then
      skip
      return .aliasTo (← slotOf name)
    let (anchor, written) ← readProperties
    let tag ← written.mapM (tagOf handles)
    withAnchor anchor do
      match ← peek with
      | some (.scalar isPlain text) =>
        skip
        return .scalar (tag.filter (· ≠ Tag.nonSpecific)) isPlain text
      | some .flowList => skip; return .list tag (← readFlowItems handles steps true)
      | some .flowMapping => skip; return .mapping tag (← readFlowFields handles steps true)
      | token =>
        match inBlock, atField, token with
        | true, _, some .blockList => skip; return .list tag (← readItems handles steps)
        | true, _, some .blockMapping => skip; return .mapping tag (← readFields handles steps)
        | _, true, some .item => return .list tag (← readItemsAtField handles steps)
        | _, _, _ =>
          if anchor.isSome || tag.isSome then return .scalar tag true [] else failure

/-- The items of a list in a block, up to its end. -/
def readItems (handles : Handles) (steps : Nat) : NodeReader (List Node) :=
  match steps with
  | 0 => failure
  | steps + 1 => do
    match ← next with
    | some .blockEnd => return []
    | some .item =>
      let item ← match ← peek with
        | some .item | some .blockEnd => pure Node.empty
        | _ => readNode handles steps true false
      return item :: (← readItems handles steps)
    | _ => failure

/-- The items of a list at the column of its field. -/
def readItemsAtField (handles : Handles) (steps : Nat) : NodeReader (List Node) :=
  match steps with
  | 0 => failure
  | steps + 1 => do
    match ← peek with
    | some .item =>
      skip
      let item ← match ← peek with
        | some .item | some .key | some .value | some .blockEnd => pure Node.empty
        | _ => readNode handles steps true false
      return item :: (← readItemsAtField handles steps)
    | _ => return []

/-- The fields of a mapping in a block, up to its end. -/
def readFields (handles : Handles) (steps : Nat) : NodeReader (List (Node × Node)) :=
  match steps with
  | 0 => failure
  | steps + 1 => do
    match ← next with
    | some .blockEnd => return []
    | some .key =>
      let key ← match ← peek with
        | some .key | some .value | some .blockEnd => pure Node.empty
        | _ => readNode handles steps true true
      let value ← match ← peek with
        | some .value =>
          skip
          match ← peek with
          | some .key | some .value | some .blockEnd => pure Node.empty
          | _ => readNode handles steps true true
        | _ => pure Node.empty
      return (key, value) :: (← readFields handles steps)
    | _ => failure

/-- The items of a list in flow, up to its end. All but the first come after
a comma, and one comma may come before the end. -/
def readFlowItems (handles : Handles) (steps : Nat) (first : Bool) : NodeReader (List Node) :=
  match steps with
  | 0 => failure
  | steps + 1 => do
    match first, ← peek with
    | false, some .comma => skip
    | false, some .flowListEnd => pure ()
    | false, _ => failure
    | true, _ => pure ()
    match ← peek with
    | some .flowListEnd => skip; return []
    | some .key =>
      skip
      let field ← readFlowPair handles steps
      return .mapping none [field] :: (← readFlowItems handles steps false)
    | _ =>
      let item ← readNode handles steps false false
      return item :: (← readFlowItems handles steps false)

/-- The field that is an item of a list in flow, after the mark of its key.
Where the key is left out, the token in its place is lost. -/
def readFlowPair (handles : Handles) (steps : Nat) : NodeReader (Node × Node) :=
  match steps with
  | 0 => failure
  | steps + 1 => do
    let key ← match ← peek with
      | some .value | some .comma | some .flowListEnd => skip; pure Node.empty
      | _ => readNode handles steps false false
    let value ← match ← peek with
      | some .value =>
        skip
        match ← peek with
        | some .comma | some .flowListEnd => pure Node.empty
        | _ => readNode handles steps false false
      | _ => pure Node.empty
    return (key, value)

/-- The fields of a mapping in flow, up to its end. What has no mark of a
key is a key without a value. -/
def readFlowFields (handles : Handles) (steps : Nat) (first : Bool) :
    NodeReader (List (Node × Node)) :=
  match steps with
  | 0 => failure
  | steps + 1 => do
    match first, ← peek with
    | false, some .comma => skip
    | false, some .flowMappingEnd => pure ()
    | false, _ => failure
    | true, _ => pure ()
    match ← peek with
    | some .flowMappingEnd => skip; return []
    | some .key =>
      skip
      let key ← match ← peek with
        | some .value | some .comma | some .flowMappingEnd => pure Node.empty
        | _ => readNode handles steps false false
      let value ← match ← peek with
        | some .value =>
          skip
          match ← peek with
          | some .comma | some .flowMappingEnd => pure Node.empty
          | _ => readNode handles steps false false
        | _ => pure Node.empty
      return (key, value) :: (← readFlowFields handles steps false)
    | _ =>
      let key ← readNode handles steps false false
      return (key, Node.empty) :: (← readFlowFields handles steps false)

end

end NodeReader

end Yaml

end ClusterBlueprint
