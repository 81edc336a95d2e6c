import ClusterBlueprint.Yaml.Tag
/-!
# Yaml — nodes

A document is a tree of scalars, lists and mappings. A node may be given a
name, an anchor, and other places of the tree may stand for that node by the
name, as its aliases.

An anchor has a slot, which is what an alias keeps. The slot of a new name
is the number of names before it, and so is that of a name given again. A
name given again may therefore share its slot with one that comes later, and
then both stand for the node that had the slot last.
-/

namespace ClusterBlueprint

namespace Yaml

/-- A node of a document. The key of a mapping is a node as well. -/
inductive Node where
  | scalar (tag : Option Tag) (isPlain : Bool) (text : List Char)
  | list (tag : Option Tag) (items : List Node)
  | mapping (tag : Option Tag) (fields : List (Node × Node))
  | aliasTo (slot : Nat)

namespace Node

/-- The scalar that stands where a node is left out. -/
def empty : Node := scalar none true []

mutual

/-- How many scalars, aliases, and beginnings and ends of lists and mappings
a node has. -/
def size : Node → Nat
  | scalar .. => 1
  | aliasTo _ => 1
  | list _ items => 2 + sizeOfItems items
  | mapping _ fields => 2 + sizeOfFields fields

/-- The size of the items of a list. -/
def sizeOfItems : List Node → Nat
  | [] => 0
  | item :: items => item.size + sizeOfItems items

/-- The size of the fields of a mapping. -/
def sizeOfFields : List (Node × Node) → Nat
  | [] => 0
  | (key, value) :: fields => key.size + value.size + sizeOfFields fields

end

end Node

/-- The anchors up to a place: the slot of each name; which of the named
nodes, counted from zero, has a slot, the latest first; how many there are;
and those that are complete. -/
structure Anchors where
  slots : List (List Char × Nat)
  holders : List (Nat × Nat)
  count : Nat
  nodes : List (Nat × Node)

namespace Anchors

/-- No anchors. -/
def none : Anchors := ⟨[], [], 0, []⟩

/-- The slot of a name. -/
def slot? (a : Anchors) (name : List Char) : Option Nat := a.slots.lookup name

/-- Gives a name to the node that begins here. -/
def define (a : Anchors) (name : List Char) : Anchors :=
  let slot := a.slots.length
  { a with
    slots := (name, slot) :: a.slots.filter (·.1 ≠ name)
    holders := (slot, a.count) :: a.holders
    count := a.count + 1 }

/-- Completes the named node of a number. -/
def complete (a : Anchors) (number : Nat) (node : Node) : Anchors :=
  { a with nodes := (number, node) :: a.nodes }

/-- The node that a slot stands for. -/
def node? (a : Anchors) (slot : Nat) : Option Node := do
  let number ← a.holders.lookup slot
  a.nodes.lookup number

end Anchors

end Yaml

end ClusterBlueprint
