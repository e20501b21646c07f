import TemplateAssist.Block.Kind
import TemplateAssist.Tag
import TemplateAssist.Text.Span

/-!
# Diagnostics

A diagnostic says what is wrong (`Problem`) and where (`Span`).  The problem is kept as data, so
that a check can be reasoned about by what it found; `Problem.message` has the wording, in one
place.

Like spans, diagnostics are over any type of offsets.  The checks of this library produce
`Finding`s, with natural ones; a host may mix in diagnostics of its own.
-/

set_option autoImplicit false

namespace TemplateAssist

/-! ## Problems -/

/-- How serious a diagnostic is.  The checks of this library only report errors. -/
inductive Severity where
  | info
  | warning
  | error
  deriving DecidableEq, Repr

/-- The severity's own name. -/
def Severity.name : Severity → String
  | info => "info"
  | warning => "warning"
  | error => "error"

/-- The two quote characters. -/
inductive Quote where
  | double
  | single
  deriving DecidableEq, Repr

/-- The character that the quote is. -/
def Quote.char : Quote → Char
  | double => '"'
  | single => '\''

/-- The quote that a character is. -/
def Quote.ofChar? : Char → Option Quote
  | '"' => some double
  | '\'' => some single
  | _ => none

/-- A character is a quote exactly when `ofChar?` finds it. -/
theorem Quote.ofChar?_eq_some_iff {c : Char} {quote : Quote} :
    ofChar? c = some quote ↔ c = quote.char := by
  constructor
  · intro h
    unfold ofChar? at h
    split at h <;> first | (obtain rfl := Option.some.inj h; rfl) | cases h
  · rintro rfl
    cases quote <;> rfl

/-- The three kinds of bracket. -/
inductive Bracket where
  | parenthesis
  | square
  | brace
  deriving DecidableEq, Repr

namespace Bracket

/-- The character that opens the bracket. -/
def opening : Bracket → Char
  | parenthesis => '('
  | square => '['
  | brace => '{'

/-- The character that closes the bracket. -/
def closing : Bracket → Char
  | parenthesis => ')'
  | square => ']'
  | brace => '}'

/-- The word for the bracket in a message. -/
def name : Bracket → String
  | parenthesis => "parenthesis"
  | square => "bracket"
  | brace => "brace"

end Bracket

/-- What a diagnostic reports. -/
inductive Problem where
  /-- Delimiters of two kinds run into each other, as in `{{%`. -/
  | mixedDelimiters
  /-- A block of one kind ends with the closer of another. -/
  | mismatchedCloser (expected found : BlockKind)
  /-- A block runs to the end of the text. -/
  | unclosedBlock
  /-- The first word of a statement is a frequent misspelling. -/
  | misspelt (meant : String)
  /-- An end tag where no body is open. -/
  | unexpectedEnd (tag : Tag)
  /-- An end tag where the innermost open body belongs to another tag. -/
  | wrongEnd (expected found : Tag)
  /-- A word that starts like an end tag and is none. -/
  | invalidEnd (word : Text)
  /-- A body that no end tag closes. -/
  | unclosedTag (tag : Tag)
  /-- An odd number of quotes of one kind. -/
  | unmatchedQuote (quote : Quote)
  /-- A closing bracket with no opening one before it. -/
  | unexpectedClosing (bracket : Bracket)
  /-- An opening bracket that is never closed. -/
  | unmatchedOpening (bracket : Bracket)
  /-- An expression that starts from a name which is not known. -/
  | undefinedVariable (name : Text)
  /-- A report of the host, in its own words. -/
  | other (message : String)
  deriving DecidableEq, Repr

/-- The wording of a problem. -/
def Problem.message : Problem → String
  | mixedDelimiters => "Mixed delimiter syntax"
  | mismatchedCloser expected found =>
    "Mismatched delimiter: expected '" ++ String.ofList expected.closer ++ "' but found '"
      ++ String.ofList found.closer ++ "'"
  | unclosedBlock => "Unclosed block"
  | misspelt meant => "Did you mean '" ++ meant ++ "'?"
  | unexpectedEnd tag => "Unexpected '" ++ tag.endName ++ "' - no matching opening tag"
  | wrongEnd expected found =>
    "Expected '" ++ expected.endName ++ "' but found '" ++ found.endName ++ "'"
  | invalidEnd word => "Invalid end tag '" ++ String.ofList word ++ "'"
  | unclosedTag tag => "Unclosed '" ++ tag.name ++ "' tag - missing '" ++ tag.endName ++ "'"
  | unmatchedQuote quote => "Unmatched " ++ quote.char.toString ++ " quote"
  | unexpectedClosing bracket => "Unexpected closing " ++ bracket.name
  | unmatchedOpening bracket => "Unmatched opening " ++ bracket.name
  | undefinedVariable name => "Undefined variable '" ++ String.ofList name ++ "'"
  | other message => message

/-! ## Diagnostics -/

/-- A problem and the span to mark for it. -/
structure Diagnostic (α : Type) where
  span : Span α
  problem : Problem
  severity : Severity := .error
  deriving DecidableEq, Repr

/-- A diagnostic of this library: its offsets are places in the text. -/
abbrev Finding := Diagnostic Nat

/-- The finding moved `n` further on. -/
def Diagnostic.shift (n : Nat) (d : Finding) : Finding := { d with span := d.span.shift n }

end TemplateAssist
