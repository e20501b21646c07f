import TemplateAssist.Data
import TemplateAssist.Variable.Tree

/-!
# From values to variable trees

A host describes its variables by a nested `Value`: plain data, in which it may have put nodes
that are built already, or values of a type of its own.  `VariableTree.ofValue` reads it as a tree,
where a mapping becomes an object, a list an array, a text a leaf with that description, and any
other value a leaf described by the name of its type.
-/

set_option autoImplicit false

namespace TemplateAssist

/-- A value that describes variables.  The items of a list do not matter. -/
inductive Value where
  | null
  | bool
  | int
  | float
  | text (content : String)
  | list
  | mapping (fields : List (Text × Value))
  /-- A node that is built already. -/
  | node (n : Node)
  /-- A value of another type, known by the name of the type. -/
  | foreign (typeName : String)

namespace Value

/-- The name of a value's type. -/
def typeName : Value → String
  | null => "NoneType"
  | bool => "bool"
  | int => "int"
  | float => "float"
  | text _ => "str"
  | list => "list"
  | mapping _ => "dict"
  | node (.leaf _) => "Leaf"
  | node .array => "ArrayMarker"
  | node (.object _) => "ObjectNode"
  | foreign name => name

mutual

/-- The node that a value describes. -/
def toNode : Value → Node
  | null => .leaf "null"
  | bool => .leaf "boolean"
  | int => .leaf "number"
  | float => .leaf "number"
  | text content => .leaf content
  | list => .array
  | mapping fields => .object (toChildren fields)
  | node n => n
  | foreign name => .leaf name

/-- The children that the fields of a mapping describe. -/
def toChildren : List (Text × Value) → List (Text × Node)
  | [] => []
  | (name, value) :: rest => (name, toNode value) :: toChildren rest

end

end Value

namespace Value

mutual

/-- Data as a description of variables. -/
def ofData : Data → Value
  | .null => null
  | .bool _ => bool
  | .int _ => int
  | .float _ => float
  | .text content => text (String.ofList content)
  | .moment .dateTime => foreign "datetime"
  | .moment .date => foreign "date"
  | .moment .time => foreign "time"
  | .list _ => list
  | .table fields => mapping (ofFields fields)

/-- The fields of a table as descriptions of variables. -/
def ofFields : List (Text × Data) → List (Text × Value)
  | [] => []
  | (name, data) :: rest => (name, ofData data) :: ofFields rest

end

end Value

/-- A value that is no mapping was given for a whole tree. -/
structure NotAMapping where
  typeName : String
  deriving DecidableEq, Repr

/-- The wording of the error for a value that is no mapping. -/
def NotAMapping.message (e : NotAMapping) : String :=
  "Variable tree must be built from a mapping, got " ++ e.typeName

namespace VariableTree

/-- The tree that a mapping describes. -/
def ofMapping : Value → Except NotAMapping VariableTree
  | .mapping fields => .ok ⟨Value.toChildren fields⟩
  | value => .error ⟨value.typeName⟩

/-- The tree that a value describes; no value is an empty tree. -/
def ofValue : Value → Except NotAMapping VariableTree
  | .null => .ok empty
  | value => ofMapping value

/-- The variables that are known if a host gives none. -/
def builtin : VariableTree :=
  let leaf (name description : String) : Text × Node := (name.toList, .leaf description)
  let object (name : String) (children : Children) : Text × Node := (name.toList, .object children)
  ⟨[object "system"
      [leaf "time" "Current timestamp", leaf "user" "Current user info",
        leaf "environment" "Runtime environment"],
    object "news"
      [leaf "headline" "News article headline", leaf "source" "News source name",
        leaf "published_at" "Publication timestamp",
        leaf "symbols_mentioned" "Array of financial symbols",
        leaf "body" "Full article content"],
    object "rollups"
      [object "btc"
        [leaf "full" "Complete BTC analysis", leaf "summary" "BTC summary data",
          leaf "price" "Current BTC price"]],
    object "recent_news" [leaf "btc" "Array of recent BTC news items"],
    object "templates" [object "instructions" [leaf "4o" "GPT-4 instruction template"]]]⟩

end VariableTree

end TemplateAssist
