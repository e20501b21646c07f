import TemplateAssist.Block.Kind
import TemplateAssist.Completion.Candidate
import TemplateAssist.Number.Limit
import TemplateAssist.Tag

/-!
# Pools of candidates

The words of the template language, as candidates: block starters, statement keywords and end
tags, operators, built-in names, filters and tests.
-/

set_option autoImplicit false

namespace TemplateAssist
namespace Pool

/-! ## Block starters -/

/-- The description of a block starter. -/
def starterDetail : BlockKind → String
  | .expression => "Expression"
  | .statement => "Statement"
  | .comment => "Comment"

/-- The delimiters of a block with the caret between them. -/
def starter (kind : BlockKind) : Candidate where
  label := kind.opener
  kind := .keyword
  insertion := kind.opener ++ [' '] ++ kind.closer
  detail := starterDetail kind
  caret := some (kind.opener.length + 1)

/-- The block starters. -/
def starters : List Candidate := [BlockKind.expression, .statement, .comment].map starter

/-! ## Statements -/

/-- A keyword that starts a statement. -/
structure Keyword where
  label : String
  /-- The statement, without its delimiters. -/
  snippet : Text
  detail : String
  /-- The word that closes the body, if the keyword opens one. -/
  endTag : Option Text
  deriving DecidableEq, Repr

namespace Keyword

/-- The number of the placeholder for the body: the next one after those of the statement. -/
def bodyNumber (k : Keyword) : Nat :=
  match ((placeholders k.snippet).map Text.decimalValue).max? with
  | some n => n + 1
  | none => 0

/-- What is inserted for a keyword.  If the closer of the statement stands there already, it is
the statement only; otherwise a keyword that opens a body also gets the closer, an indented
placeholder for the body, and the end tag. -/
def insertion (k : Keyword) (closed : Bool) : Text :=
  match closed, k.endTag with
  | false, some endTag =>
    k.snippet ++ [' ', '%', '}', '\n', ' ', ' ', '$'] ++ Nat.toDigits 10 k.bodyNumber
      ++ ['\n', '{', '%', ' '] ++ endTag ++ [' ', '%', '}']
  | _, _ => k.snippet

/-- What is inserted for a keyword, if the numbers of the placeholders are not too long. -/
def insertion? (k : Keyword) (closed : Bool) : Except LongInteger Text := do
  if !closed && k.endTag.isSome then
    (placeholders k.snippet).forM LongInteger.checkDigits
    let _ ← LongInteger.write k.bodyNumber
  return k.insertion closed

end Keyword

/-- The statement keywords. -/
def keywords : List Keyword :=
  [("if", "if $0", "Conditional statement", some Tag.ifTag),
    ("for", "for $0 in $1", "Loop statement", some Tag.forTag),
    ("set", "set $0 = $1", "Variable assignment", none),
    ("block", "block $0", "Template block", some Tag.blockTag),
    ("extends", "extends '$0'", "Template inheritance", none),
    ("include", "include '$0'", "Include template", none),
    ("macro", "macro $0()", "Macro definition", some Tag.macroTag),
    ("raw", "raw", "Raw content block", some Tag.rawTag),
    ("with", "with $0", "Context block", some Tag.withTag),
    ("filter", "filter $0", "Filter section", some Tag.filterTag),
    ("call", "call $0()", "Call block", some Tag.callTag),
    ("autoescape", "autoescape $0", "Autoescape section", some Tag.autoescapeTag)].map
    fun (label, snippet, detail, tag) ↦
      ⟨label, snippet.toList, detail, tag.map (·.endName.toList)⟩

/-- The statement keywords, and then all end tags. -/
def statements (closed : Bool) : List Candidate :=
  (keywords.map fun k ↦ Candidate.ofTexts .keyword k.label (k.insertion closed) k.detail)
    ++ Tag.all.map fun tag ↦
      Candidate.ofTexts .keyword tag.endName tag.endName.toList ("End " ++ tag.name)

/-! ## Expressions -/

/-- Operators and constants. -/
def operators : List Candidate :=
  [(CandidateKind.keyword, "and", "and", "Logical AND"),
    (.keyword, "or", "or", "Logical OR"),
    (.keyword, "not", "not", "Logical NOT"),
    (.keyword, "in", "in", "Membership test"),
    (.keyword, "is", "is", "Identity test"),
    (.keyword, "else", "else", "Else clause"),
    (.keyword, "elif", "elif $0", "Else if clause"),
    (.constant, "true", "true", "Boolean true"),
    (.constant, "false", "false", "Boolean false"),
    (.constant, "none", "none", "Null value")].map
    fun (kind, label, insertion, detail) ↦ .ofTexts kind label insertion.toList detail

/-- Names that every template has. -/
def builtins : List Candidate :=
  [(CandidateKind.variable, "loop", "loop", "Loop info (index, first, last)"),
    (.function, "super", "super()", "Parent block")].map
    fun (kind, label, insertion, detail) ↦ .ofTexts kind label insertion.toList detail

/-- Filters. -/
def filters : List Candidate :=
  [("default", "default($0)", "Default value if undefined"),
    ("length", "length", "Get length of sequence"),
    ("upper", "upper", "Convert to uppercase"),
    ("lower", "lower", "Convert to lowercase"),
    ("title", "title", "Convert to title case"),
    ("capitalize", "capitalize", "Capitalize first letter"),
    ("trim", "trim", "Remove whitespace"),
    ("escape", "escape", "HTML escape"),
    ("safe", "safe", "Mark as safe HTML"),
    ("int", "int", "Convert to integer"),
    ("float", "float", "Convert to float"),
    ("string", "string", "Convert to string"),
    ("list", "list", "Convert to list"),
    ("abs", "abs", "Absolute value"),
    ("round", "round", "Round number"),
    ("max", "max", "Maximum value"),
    ("min", "min", "Minimum value"),
    ("sum", "sum", "Sum values"),
    ("sort", "sort", "Sort sequence"),
    ("reverse", "reverse", "Reverse sequence"),
    ("join", "join('$0')", "Join with separator"),
    ("split", "split('$0')", "Split string"),
    ("replace", "replace('$0', '$1')", "Replace substring"),
    ("truncate", "truncate($0)", "Truncate text"),
    ("first", "first", "First item"),
    ("last", "last", "Last item"),
    ("unique", "unique", "Remove duplicates"),
    ("reject", "reject($0)", "Filter out items"),
    ("select", "select($0)", "Filter items"),
    ("map", "map($0)", "Apply function to items")].map
    fun (label, insertion, detail) ↦ .ofTexts .function label insertion.toList detail

/-- Tests. -/
def tests : List Candidate :=
  [("defined", "Check if variable is defined"),
    ("undefined", "Check if variable is undefined"),
    ("none", "Check if value is None"),
    ("even", "Check if number is even"),
    ("odd", "Check if number is odd"),
    ("string", "Check if value is string"),
    ("number", "Check if value is number"),
    ("sequence", "Check if value is sequence"),
    ("mapping", "Check if value is mapping"),
    ("iterable", "Check if value is iterable")].map
    fun (label, detail) ↦ .ofTexts .function label label.toList detail

end Pool
end TemplateAssist
