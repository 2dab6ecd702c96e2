import Stencil.Yaml.Token

/-!
# Nodes

The tree of a document. A node has the place where it begins, a tag if it is given one, and a
slot if it is given a name; an alias stands for the node of a slot. A name that is given twice
takes a new slot, which is the number of different names so far, so that two nodes can share a
slot; then the one that begins later is meant.
-/

namespace Stencil.Yaml

/-- What every node has: its place, its tag and its slot. -/
structure Heading where
  mark : Mark
  tag : Option (List Char)
  slot : Option Nat
deriving DecidableEq, Repr, Inhabited

inductive Node where
  | scalar (heading : Heading) (style : Style) (text : String)
  | sequence (heading : Heading) (items : List Node)
  | mapping (heading : Heading) (pairs : List (Node × Node))
  | alias (mark : Mark) (slot : Nat)
deriving Inhabited

namespace Node

def mark : Node → Mark
  | .scalar h _ _ => h.mark
  | .sequence h _ => h.mark
  | .mapping h _ => h.mark
  | .alias m _ => m

/-- A scalar that is not written. -/
def absent (m : Mark) : Node := .scalar ⟨m, none, none⟩ .plain ""

mutual

/-- The nodes of a tree that have a slot, in the order in which they begin. -/
def named : Node → List (Nat × Node)
  | .scalar h style text => h.slot.toList.map fun s => (s, .scalar h style text)
  | .sequence h items => (h.slot.toList.map fun s => (s, .sequence h items)) ++ namedItems items
  | .mapping h pairs => (h.slot.toList.map fun s => (s, .mapping h pairs)) ++ namedPairs pairs
  | .alias _ _ => []

def namedItems : List Node → List (Nat × Node)
  | [] => []
  | n :: rest => named n ++ namedItems rest

def namedPairs : List (Node × Node) → List (Nat × Node)
  | [] => []
  | (k, v) :: rest => named k ++ named v ++ namedPairs rest

end

end Node

end Stencil.Yaml
