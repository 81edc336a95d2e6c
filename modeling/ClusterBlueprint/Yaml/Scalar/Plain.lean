import ClusterBlueprint.Yaml.Gap
/-!
# Yaml — scalars without quotes

A plain scalar is a run of words. It ends at a colon before a white
character, at a comment, at a mark of a document and, in flow, at a mark of
flow; in a block also where a line goes back to the left of the margin. Its
gaps are folded, and the last one, which nothing comes after, is lost.
-/

namespace ClusterBlueprint

namespace Yaml

/-- Whether a plain scalar can start with these characters. -/
def startsPlain (inFlow : Bool) : List Char → Bool
  | [] => false
  | x :: rest =>
    if x = '-' then !rest.head?.any isBlank
    else if x = '?' || x = ':' then !inFlow && !endsWord rest
    else !isWhite x && !isFlowMark x
      && x ∉ ['#', '&', '*', '!', '|', '>', '\'', '"', '%', '@', Char.ofNat 0x60]

/-- The word at the start of a text. In flow a colon must not stand before
a mark of flow. -/
def word? (inFlow : Bool) : List Char → Option (List Char)
  | [] => some []
  | x :: rest =>
    if isWhite x then some []
    else if x = ':' && inFlow && rest.head?.any (fun y => isFlowMark y || y = '?') then none
    else if (x = ':' && endsWord rest) || (inFlow && isFlowMark x) then some []
    else (word? inFlow rest).map (x :: ·)

/-- The words from a place on, after a gap that the next one would follow;
the place after them, and whether the gap there goes over a break. -/
def readPlain? (inFlow : Bool) (margin : Nat) (gap : Gap) (c : Cursor) :
    Option (List Char × Bool × Cursor) :=
  if c.atDocumentMark || c.char? = some '#' then some ([], gap.crosses, c)
  else
    match word? inFlow c.rest with
    | none => none
    | some [] => some ([], gap.crosses, c)
    | some (x :: xs) =>
      if hc : c.rest = [] then none
      else
        match hgap : Gap.read? margin (c.advance (xs.length + 1)) with
        | none => none
        | some (after, next) =>
          have := c.length_advance_lt (n := xs.length + 1) (by omega) hc
          have := Gap.length_of_read? hgap
          let text := gap.text ++ x :: xs
          if !inFlow && next.column < margin then some (text, after.crosses, next)
          else (readPlain? inFlow margin after next).map fun (more, result) => (text ++ more, result)
termination_by c.rest.length

end Yaml

end ClusterBlueprint
