import ClusterBlueprint.Yaml.Document
import ClusterBlueprint.Yaml.Token.Reader
/-!
# Yaml — reading a claim as a person writes it

A claim may be written in YAML, of which JSON is a part. The text is read
into tokens, which have the layout sorted out, the tokens make a document,
and the document has a value.
-/

namespace ClusterBlueprint

namespace Yaml

/-- The value of a text that is one document. A text with nothing in it is
the document of nothing. -/
def read (s : String) : Option Json := do
  let tokens ← Token.ofText? s.toList
  let doc ← Document.ofTokens? tokens
  doc.toJson?

end Yaml

end ClusterBlueprint
