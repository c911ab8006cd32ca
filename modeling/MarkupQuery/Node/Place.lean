import MarkupQuery.Node

/-!
Places in a tree: a node together with the way to it from the root. Going down is the only way to
reach a place.
-/
namespace MarkupQuery

/-- A node with the way to it: the positions of the children to take, from the root of its tree
on. -/
structure Place where
  address : List Nat
  node : Node
  deriving DecidableEq, Repr

namespace Place

def ofRoot (root : Node) : Place := ⟨[], root⟩

def element (p : Place) : Element := p.node.element

/-- The children in document order. -/
def children (p : Place) : List Place :=
  p.node.children.mapIdx fun i child => ⟨p.address ++ [i], child⟩

/-- The first child with a name as written. -/
def child? (p : Place) (name : Text) : Option Place := p.children.find? (·.element.name == name)

/-- All children with a name as written. -/
def childrenNamed (p : Place) (name : Text) : List Place :=
  p.children.filter (·.element.name == name)

/-- The place that positions of children lead to. -/
def descend? (p : Place) : List Nat → Option Place
  | [] => some p
  | i :: rest =>
    match p.children[i]? with
    | none => none
    | some child => child.descend? rest

@[simp] theorem map_node_children (p : Place) : p.children.map (·.node) = p.node.children := by
  apply List.ext_getElem <;> simp [children]

end Place

end MarkupQuery
