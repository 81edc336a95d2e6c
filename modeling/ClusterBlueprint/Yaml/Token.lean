import ClusterBlueprint.Yaml.Directive
/-!
# Yaml — tokens

A text is read as a sequence of tokens in which nothing of its layout is
left: where a block begins and ends by its indentation there is a token, and
every key has one before it, also where the text shows only the colon after
it.
-/

namespace ClusterBlueprint

namespace Yaml

/-- A token of a text. -/
inductive Token where
  | directive (directive : Directive)
  | documentStart
  | documentEnd
  | blockList
  | blockMapping
  | blockEnd
  | flowList
  | flowListEnd
  | flowMapping
  | flowMappingEnd
  | comma
  | item
  | key
  | value
  | aliasTo (name : List Char)
  | anchor (name : List Char)
  | tag (tag : WrittenTag)
  | scalar (isPlain : Bool) (text : List Char)

end Yaml

end ClusterBlueprint
