import ClusterBlueprint.Yaml.Layout
import ClusterBlueprint.Yaml.Scalar.Indented
import ClusterBlueprint.Yaml.Scalar.Plain
import ClusterBlueprint.Yaml.Scalar.Quoted
/-!
# Yaml — the tokens of a text

The first characters at a place say which token stands there, and the
layout what it stands for.
-/

namespace ClusterBlueprint

namespace Yaml

namespace Token

/-- The name of an anchor or an alias, and the place after it. -/
def readName? (c : Cursor) : Option (List Char × Cursor) :=
  let (name, c) := c.spanWhile isNameChar
  let ends := endsWord c.rest
    || c.char?.any (· ∈ ['?', ':', ',', ']', '}', '%', '@', Char.ofNat 0x60])
  if name.isEmpty || !ends then none else some (name, c)

/-- A scalar between quotes. -/
def quoted? (quote : Quote) (l : Layout) (c : Cursor) : Option (Layout × Cursor) := do
  let (text, next) ← readQuoted? quote [] (c.advance 1)
  let l ← l.content? (.scalar false text) c
  pure (l, next)

/-- A plain scalar. If it takes a break with it a key may stand next. -/
def plain? (l : Layout) (c : Cursor) : Option (Layout × Cursor) := do
  let (text, crosses, next) ← readPlain? l.inFlow l.margin Gap.empty c
  let l ← l.content? (.scalar true text) c
  pure ({ l with keyAllowed := crosses }, next)

/-- A scalar in the lines below. -/
def indented? (folded : Bool) (l : Layout) (c : Cursor) : Option (Layout × Cursor) := do
  let l ← l.dropKey?
  let (text, next) ← readIndented? folded l.margin (c.advance 1)
  pure ({ l.emit (.scalar false text) with keyAllowed := true }, next)

/-- A name after its sign. -/
def named? (token : List Char → Token) (l : Layout) (c : Cursor) : Option (Layout × Cursor) := do
  let (name, next) ← readName? (c.advance 1)
  let l ← l.content? (token name) c
  pure (l, next)

/-- A tag. -/
def tagged? (l : Layout) (c : Cursor) : Option (Layout × Cursor) := do
  let (written, next) ← readTag? l.inFlow c
  let l ← l.content? (.tag written) c
  pure (l, next)

/-- A directive. -/
def directive? (l : Layout) (c : Cursor) : Option (Layout × Cursor) := do
  let (read, next) ← Directive.read? (c.advance 1)
  let l ← l.separate? (.directive read)
  pure (l, next)

/-- The token that a sign of one character starts or is. -/
def signed? (x : Char) (rest : List Char) (l : Layout) (c : Cursor) : Option (Layout × Cursor) :=
  let after (l : Option Layout) : Option (Layout × Cursor) := l.map fun l => (l, c.advance 1)
  match x with
  | '[' => after (l.openFlow? .flowList c)
  | '{' => after (l.openFlow? .flowMapping c)
  | ']' => after (l.closeFlow? .flowListEnd)
  | '}' => after (l.closeFlow? .flowMappingEnd)
  | ',' => after l.comma?
  | '*' => named? .aliasTo l c
  | '&' => named? .anchor l c
  | '!' => tagged? l c
  | '\'' => quoted? .single l c
  | '"' => quoted? .double l c
  | _ =>
    if x = '-' && endsWord rest then after (l.item? c)
    else if x = '?' && (l.inFlow || endsWord rest) then after (l.key? c)
    else if x = ':' && (l.inFlow || endsWord rest) then after (l.value? c)
    else if x = '|' && !l.inFlow then indented? false l c
    else if x = '>' && !l.inFlow then indented? true l c
    else if startsPlain l.inFlow (x :: rest) then plain? l c
    else none

/-- The token at a place that is not the end, and the place after it. -/
def read? (l : Layout) (c : Cursor) : Option (Layout × Cursor) :=
  match c.rest with
  | [] => none
  | x :: rest =>
    if c.column = 0 && x = '%' then directive? l c
    else if c.atDocumentMark then
      (l.separate? (if x = '-' then .documentStart else .documentEnd)).map fun l =>
        (l, c.advance 3)
    else signed? x rest l c

/-- The tokens from a place on. Every token takes characters off the text,
so what takes none is refused. -/
def readAll? (l : Layout) (c : Cursor) : Option (List Token) :=
  match (l.skip c).1.dropStale? (l.skip c).2 with
  | none => none
  | some here =>
    let here := here.closeTo ((l.skip c).2.column + 1)
    if (l.skip c).2.rest.isEmpty then here.finish?
    else
      match read? here (l.skip c).2 with
      | none => none
      | some (l, next) => if next.rest.length < c.rest.length then readAll? l next else none
termination_by c.rest.length

/-- The tokens of a text, if all its characters are readable and each stands
where it may. -/
def ofText? (cs : List Char) : Option (List Token) :=
  if cs.all isReadable then readAll? .start (.start cs) else none

end Token

end Yaml

end ClusterBlueprint
