import TemplateAssist.Text.Blank
import TemplateAssist.Text.Quoted
import TemplateAssist.Variable.Node

/-!
# Variable trees

A `VariableTree` is what is known of the variables that a template may use: the top-level names
with their nodes.  A variable is addressed by a path, its names joined by dots.
-/

set_option autoImplicit false

namespace TemplateAssist

/-- The known variables of a template. -/
structure VariableTree where
  children : Children
  deriving Repr

/-- The names of a path written with dots. -/
def pathNames (path : Text) : List Text := path.splitOn '.'

/-- A path in which a name is empty, as it was given. -/
structure InvalidPath where
  path : Text
  deriving DecidableEq, Repr

/-- The wording of the error for an invalid path. -/
def InvalidPath.message (e : InvalidPath) : String :=
  "Invalid variable path '" ++ String.ofList e.path ++ "'"

namespace VariableTree

/-- The tree without variables. -/
def empty : VariableTree := ⟨[]⟩

/-- The whole tree as one node. -/
def root (tree : VariableTree) : Node := .object tree.children

/-- The number of top-level names. -/
def size (tree : VariableTree) : Nat := tree.children.length

/-- The top-level names, in order. -/
def names (tree : VariableTree) : List Text := Children.names tree.children

/-- Whether a top-level name is known. -/
def contains (tree : VariableTree) (name : Text) : Bool := tree.names.contains name

/-- The node at a path. -/
def get? (tree : VariableTree) (path : Text) : Option Node := tree.root.find? (pathNames path)

/-- The tree with a leaf added at a path.  Blanks around the path are left out; a path with an
empty name is refused. -/
def insert (tree : VariableTree) (path : Text) (description : String) :
    Except InvalidPath VariableTree :=
  let names := pathNames path.trim
  if names.all (!·.isEmpty) then
    .ok ⟨(Node.insert description names (some tree.root)).children⟩
  else .error ⟨path⟩

/-- The tree with another one laid over it. -/
def merge (lower upper : VariableTree) : VariableTree :=
  ⟨Node.mergeChildren lower.children upper.children⟩

/-- Whether two trees are the same but for the order of names. -/
def same (a b : VariableTree) : Bool := a.root.same b.root

/-- The tree as it is shown in a message: its top-level names. -/
def display (tree : VariableTree) : Text :=
  "VariableTree([".toList ++ [',', ' '].intercalate (tree.names.map Text.quoted) ++ "])".toList

end VariableTree

end TemplateAssist
