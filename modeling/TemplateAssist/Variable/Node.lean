import TemplateAssist.Text.Basic

/-!
# Nodes of a variable tree

What is known of a template's variables is a tree.  An `object` has named children, in the order
in which they were declared; a `leaf` is a value known by its description only; an `array` is a
list, whose elements have no names.

Children are a plain list of pairs.  Every operation here looks at the first child of a name, and
adds a child only where there is none of its name, so duplicate names do not arise.
-/

set_option autoImplicit false

namespace TemplateAssist

/-- A node of a variable tree. -/
inductive Node where
  | leaf (description : String)
  | array
  | object (children : List (Text × Node))
  deriving Repr

/-- Named children, in order. -/
abbrev Children := List (Text × Node)

namespace Children

/-- The child with a name. -/
def get? (children : Children) (name : Text) : Option Node := children.lookup name

/-- The names, in order. -/
def names (children : Children) : List Text := children.map (·.1)

/-- Replaces the child with a name by `f` of it, or adds `f none` at the end. -/
def alter (name : Text) (f : Option Node → Node) : Children → Children
  | [] => [(name, f none)]
  | (other, node) :: rest =>
    if other = name then (other, f (some node)) :: rest else (other, node) :: alter name f rest

end Children

namespace Node

/-- The children of an object; other nodes have none. -/
def children : Node → Children
  | object children => children
  | _ => []

/-- Whether the node is an object. -/
def isObject : Node → Bool
  | object _ => true
  | _ => false

/-! ## Following a path -/

/-- The node that the names lead to, one level after the other. -/
def find? : List Text → Node → Option Node
  | [], node => some node
  | name :: path, object children => (Children.get? children name).bind (find? path)
  | _ :: _, _ => none

/-- A leaf put where the names lead to.  Objects that are missing on the way are made, and a leaf
or an array that stands in the way gives way to an object. -/
def insert (description : String) : List Text → Option Node → Node
  | [], _ => leaf description
  | name :: path, node =>
    object (Children.alter name (insert description path) ((node.map children).getD []))

/-! ## Merging and comparing -/

mutual

/-- A node laid over another.  Objects merge child by child; otherwise the upper node wins. -/
def merge (lower : Node) : Node → Node
  | object upper =>
    match lower with
    | object children => object (mergeChildren children upper)
    | _ => object upper
  | upper => upper

/-- Children laid over others: each goes over the child of its name, or to the end. -/
def mergeChildren (lower : List (Text × Node)) : List (Text × Node) → List (Text × Node)
  | [] => lower
  | (name, node) :: upper =>
    mergeChildren
      (Children.alter name (fun | some below => merge below node | none => node) lower) upper

end

mutual

/-- Whether two nodes are the same but for the order of children. -/
def same : Node → Node → Bool
  | leaf a, leaf b => a == b
  | array, array => true
  | object xs, object ys => xs.length == ys.length && sameChildren xs ys
  | _, _ => false

/-- Whether every child has one of the same name and content among `others`. -/
def sameChildren : List (Text × Node) → List (Text × Node) → Bool
  | [], _ => true
  | (name, node) :: rest, others =>
    (match Children.get? others name with
      | some other => same node other
      | none => false) && sameChildren rest others

end

/-! ## Descriptions -/

/-- What is shown for a node next to its name. -/
def detail : Node → String
  | object children => "Object with " ++ toString children.length ++ " properties"
  | array => "Array"
  | leaf description => description

end Node

end TemplateAssist
