import TemplateAssist.Text.DecimalDigit
import TemplateAssist.Text.LowerCase
import TemplateAssist.Variable.Tree

/-!
# Candidates

A candidate is one thing that a completion offers: a label to show and to match, and a text to
insert.  The text may hold placeholders, a dollar sign and a number, for the host to step through.

The variables of a tree give two lists of candidates: the children of the object at a path, and
every node of the tree with its full path.
-/

set_option autoImplicit false

namespace TemplateAssist

/-- What a candidate is, for display. -/
inductive CandidateKind where
  | keyword
  | variable
  | property
  | function
  | constant
  deriving DecidableEq, Repr

/-- The kind's own name. -/
def CandidateKind.name : CandidateKind → String
  | .keyword => "keyword"
  | .variable => "variable"
  | .property => "property"
  | .function => "function"
  | .constant => "constant"

/-- One thing that a completion offers. -/
structure Candidate where
  /-- The text shown, which the typed text is matched against. -/
  label : Text
  kind : CandidateKind
  /-- The text that is inserted. -/
  insertion : Text
  /-- A short description. -/
  detail : String
  /-- Whether `insertion` has placeholders. -/
  isSnippet : Bool := false
  /-- Where the caret goes in `insertion`, if not to its end. -/
  caret : Option Nat := none
  deriving DecidableEq, Repr

/-! ## Placeholders -/

/-- The digits of the placeholders in a text, in order. -/
def placeholders : Text → List Text
  | [] => []
  | c :: rest =>
    let digits := rest.takeWhile isDecimalDigit
    if c = '$' ∧ digits ≠ [] then digits :: placeholders rest else placeholders rest

namespace Candidate

/-- A candidate that is a snippet if its text has placeholders. -/
def ofTexts (kind : CandidateKind) (label : String) (insertion : Text) (detail : String) :
    Candidate where
  label := label.toList
  kind := kind
  insertion := insertion
  detail := detail
  isSnippet := !(placeholders insertion).isEmpty

/-- Whether the candidate matches what was typed: its label starts with it, in either case. -/
def isMatch (typed : Text) (c : Candidate) : Bool := typed.lower.isPrefixOf c.label.lower

end Candidate

/-! ## Variables -/

/-- A candidate for each child of the object at a path; none if there is no object. -/
def VariableTree.properties (tree : VariableTree) (path : Text) : List Candidate :=
  ((tree.get? path).map Node.children).getD [] |>.map fun (name, node) ↦
    { label := name, kind := if node.isObject then .variable else .property, insertion := name,
      detail := node.detail }

/-- A name below a path; at the top level there is no path yet. -/
def Text.below (path name : Text) : Text := if path.isEmpty then name else path ++ '.' :: name

/-- The candidate for a node with a full path. -/
def Node.candidate (path name : Text) (node : Node) : Candidate :=
  { label := name, kind := .variable, insertion := Text.below path name, detail := node.detail }

mutual

/-- Candidates for all nodes below a node at a path. -/
def Node.flatten (path : Text) : Node → List Candidate
  | .object children => Node.flattenChildren path children
  | _ => []

/-- Candidates for children at a path and all nodes below them: each child is followed by what is
below it. -/
def Node.flattenChildren (path : Text) : List (Text × Node) → List Candidate
  | [] => []
  | (name, node) :: rest =>
    node.candidate path name :: node.flatten (Text.below path name)
      ++ Node.flattenChildren path rest

end

/-- A candidate for each node of a tree, with its full path. -/
def VariableTree.flatten (tree : VariableTree) : List Candidate :=
  Node.flattenChildren [] tree.children

end TemplateAssist
