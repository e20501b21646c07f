import TemplateAssist.Data.Literal

/-!
# Kinds of snippet

The pieces of template code that can be inserted from a menu.
-/

set_option autoImplicit false

namespace TemplateAssist

/-- A kind of snippet. -/
inductive SnippetKind where
  | rollup
  | forLoop
  | ifStatement
  | variableReference
  | filtered
  | similarHeadlines
  deriving DecidableEq, Repr

namespace SnippetKind

/-- All kinds, in the order of the menu. -/
def all : List SnippetKind :=
  [rollup, forLoop, ifStatement, variableReference, filtered, similarHeadlines]

/-- The word by which a kind is chosen. -/
def key : SnippetKind → String
  | rollup => "rollup"
  | forLoop => "for"
  | ifStatement => "if"
  | variableReference => "variable"
  | filtered => "filter"
  | similarHeadlines => "similar_headlines"

/-- The name shown in the menu. -/
def label : SnippetKind → String
  | rollup => "Rollup"
  | forLoop => "For Loop"
  | ifStatement => "If Statement"
  | variableReference => "Variable"
  | filtered => "Filter"
  | similarHeadlines => "Similar Headlines"

/-- What the snippet is for. -/
def description : SnippetKind → String
  | rollup => "Insert a cryptocurrency rollup data block"
  | forLoop => "Create a for loop to iterate over collections"
  | ifStatement => "Add conditional logic to your template"
  | variableReference => "Insert a template variable reference"
  | filtered => "Apply a filter to transform data"
  | similarHeadlines => "Query for similar news headlines"

end SnippetKind

/-- A value that is the key of no kind of snippet. -/
structure UnknownKind where
  given : Data
  deriving Repr

/-- The wording of the error for an unknown kind. -/
def UnknownKind.message (e : UnknownKind) : String :=
  String.ofList e.given.literal ++ " is not a valid SnippetKind"

/-- The kind with a key. -/
def SnippetKind.ofData (data : Data) : Except UnknownKind SnippetKind :=
  match data with
  | .text t =>
    match all.find? fun kind ↦ kind.key.toList = t with
    | some kind => .ok kind
    | none => .error ⟨data⟩
  | _ => .error ⟨data⟩

end TemplateAssist
