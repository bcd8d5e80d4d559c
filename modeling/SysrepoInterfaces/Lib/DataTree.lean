/-!
# SysrepoInterfaces.Lib.DataTree

YANG data trees: leaves, containers and list instances, looked up by name among
the children of a node.  A node's name does not carry its module prefix.
-/

namespace DataTree

/-- A data node; a `list` node is one instance of a list. -/
inductive Node where
  | leaf (name value : String)
  | container (name : String) (children : List Node)
  | list (name : String) (children : List Node)

namespace Node

def children : Node → List Node
  | leaf _ _ => []
  | container _ cs => cs
  | list _ cs => cs

/-- The value of a leaf of this name. -/
def leafValue (name : String) : Node → Option String
  | leaf n v => if n = name then some v else none
  | container _ _ => none
  | list _ _ => none

/-- The node, if it is a container of this name. -/
def containerNode (name : String) : Node → Option Node
  | leaf _ _ => none
  | container n cs => if n = name then some (container n cs) else none
  | list _ _ => none

/-- The node, if it is an instance of the list of this name. -/
def listNode (name : String) : Node → Option Node
  | leaf _ _ => none
  | container _ _ => none
  | list n cs => if n = name then some (list n cs) else none

/-- The value of the first child leaf of this name. -/
def childLeaf (node : Node) (name : String) : Option String :=
  node.children.findSome? (leafValue name)

/-- The first child container of this name. -/
def childContainer (node : Node) (name : String) : Option Node :=
  node.children.findSome? (containerNode name)

/-- The instances of the child list of this name, in order. -/
def childList (node : Node) (name : String) : List Node :=
  node.children.filterMap (listNode name)

section Lookup

variable {name n v : String} {cs ds : List Node}

@[simp] theorem children_container : (container n cs).children = cs := rfl

@[simp] theorem children_list : (list n cs).children = cs := rfl

@[simp] theorem leafValue_leaf : leafValue name (leaf n v) = if n = name then some v else none :=
  rfl

@[simp] theorem leafValue_container : leafValue name (container n cs) = none := rfl

@[simp] theorem leafValue_list : leafValue name (list n cs) = none := rfl

@[simp] theorem containerNode_leaf : containerNode name (leaf n v) = none := rfl

@[simp] theorem containerNode_container : containerNode name (container n cs) =
    if n = name then some (container n cs) else none := rfl

@[simp] theorem containerNode_list : containerNode name (list n cs) = none := rfl

@[simp] theorem listNode_leaf : listNode name (leaf n v) = none := rfl

@[simp] theorem listNode_container : listNode name (container n cs) = none := rfl

@[simp] theorem listNode_list : listNode name (list n cs) =
    if n = name then some (list n cs) else none := rfl

/-- The instances of a list are found again. -/
@[simp] theorem filterMap_listNode_comp_list {α : Type} (f : α → List Node) (xs : List α) :
    xs.filterMap (listNode name ∘ fun x => list n (f x)) =
      if n = name then xs.map fun x => list n (f x) else [] := by
  induction xs with
  | nil => simp
  | cons x xs ih =>
      rw [List.filterMap_cons, ih]
      by_cases h : n = name <;> simp [h]

end Lookup

end Node

end DataTree
