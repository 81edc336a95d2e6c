import ClusterBlueprint.Yaml.Node.Reader
/-!
# Yaml — documents

A text is one document. Directives may come before it, and then a mark has
to say where it begins; after it only marks of its end may come.

The value of a document is JSON. The key of a field is the text of a scalar,
whatever it looks like. A node without a tag is what it looks like; a tag
of the language says what it has to be, and a tag of the text's own stands
for nothing in JSON. An alias has the value of its node. Lists and mappings
nest at most 128 deep, which a node inside itself would exceed, and aliases
are followed at most a hundred times as often as the document is large.
-/

namespace ClusterBlueprint

namespace Yaml

/-- A document: its tree, and its anchors. -/
structure Document where
  root : Node
  anchors : Anchors

namespace Document

/-- What the handles of tags stand for without a directive. -/
def standardHandles : Handles :=
  [(['!'], Tag.nonSpecific), (['!', '!'], Tag.corePrefix)]

/-- The handles after the directives at the start of the tokens, and the
tokens after them. The version is given at most once and has to be 1.1 or
1.2, and no handle is given twice. -/
def readDirectives? (versioned : Bool) (handles : Handles) : List Token →
    Option (Handles × List Token)
  | .directive (.version major minor) :: rest =>
    if versioned || major ≠ 1 || (minor ≠ 1 && minor ≠ 2) then none
    else readDirectives? true handles rest
  | .directive (.handle handle octets) :: rest =>
    if (handles.lookup handle).isSome then none
    else readDirectives? versioned ((handle, octets) :: handles) rest
  | rest => some (handles ++ standardHandles, rest)

/-- Whether a document that has begun by its mark has nothing in it. -/
def startsEmpty : List Token → Bool
  | [] | .directive _ :: _ | .documentStart :: _ | .documentEnd :: _ => true
  | _ => false

/-- The tree that the tokens begin with, and what is left of them. -/
def readRoot? (handles : Handles) (tokens : List Token) : Option (Node × Reading) :=
  (NodeReader.readNode handles (2 * tokens.length + 2) true false).run ⟨tokens, Anchors.none⟩

/-- The tree of a document, and what is left of the tokens. -/
def readBody? (tokens : List Token) : Option (Node × Reading) :=
  match tokens with
  | [] => some (Node.empty, ⟨[], Anchors.none⟩)
  | .directive _ :: _ | .documentStart :: _ =>
    match readDirectives? false [] tokens with
    | some (handles, .documentStart :: rest) =>
      if startsEmpty rest then some (Node.empty, ⟨rest, Anchors.none⟩) else readRoot? handles rest
    | _ => none
  | _ => readRoot? standardHandles tokens

/-- The document that tokens make. -/
def ofTokens? (tokens : List Token) : Option Document := do
  let (root, reading) ← readBody? tokens
  let isEnd : Token → Bool
    | .documentEnd => true
    | _ => false
  if reading.tokens.all isEnd then some ⟨root, reading.anchors⟩ else none

/-- The value of a scalar. -/
def scalarValue? (tag : Option Tag) (isPlain : Bool) (text : List Char) : Option Json :=
  match tag with
  | none => if isPlain then plain? text else some (.text (String.ofList text))
  | some tag =>
    if tag.isLocal then none
    else if tag = Tag.core "bool" then (boolean? text).map .bool
    else if tag = Tag.core "int" then (integer? text).bind integerValue?
    else if tag = Tag.core "float" then float? text
    else if tag = Tag.core "null" then
      if String.ofList text ∈ nullWords then some .null else none
    else if tag.startsLocal && isPlain then plain? text
    else some (.text (String.ofList text))

/-- A node that is no alias: the node itself, or the one it stands for. The
state counts the aliases that have been followed. -/
def follow (doc : Document) (node : Node) : StateT Nat Option Node := do
  match node with
  | .aliasTo slot =>
    modify (· + 1)
    if (← get) > 100 * doc.root.size then failure
    match doc.anchors.node? slot with
    | some node => return node
    | none => failure
  | node => return node

/-- The text of a key. -/
def keyOf (doc : Document) (node : Node) : StateT Nat Option String := do
  match ← doc.follow node with
  | .scalar _ _ text => return String.ofList text
  | _ => failure

/-- The value of a node with at most `depth` levels of lists and mappings. -/
def valueOf (doc : Document) (depth : Nat) (node : Node) : StateT Nat Option Json := do
  match depth, ← doc.follow node with
  | _, .scalar tag isPlain text =>
    match scalarValue? tag isPlain text with
    | some value => return value
    | none => failure
  | depth + 1, .list tag items =>
    if tag.any Tag.isLocal then failure
    return .array (← items.mapM (doc.valueOf depth))
  | depth + 1, .mapping tag fields =>
    if tag.any Tag.isLocal then failure
    return Json.ofFields (← fields.mapM fun (key, value) =>
      return (← doc.keyOf key, ← doc.valueOf depth value))
  | _, _ => failure

/-- How deep lists and mappings may nest. -/
def depthLimit : Nat := 128

/-- The value of a document. -/
def toJson? (doc : Document) : Option Json := (doc.valueOf depthLimit doc.root).run' 0

end Document

end Yaml

end ClusterBlueprint
