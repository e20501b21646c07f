import TemplateAssist.Diagnostic
import TemplateAssist.Text.Blank

/-!
# Mixed delimiters

Delimiters of two kinds that run into each other, such as `{{%` and `%}}`, are reported on the raw
text, whatever blocks it has.  There are four patterns.  Each is searched on its own from left to
right, going on after the end of a match, and the matches of all four are reported in the order of
the text.
-/

set_option autoImplicit false

namespace TemplateAssist

/-- A pattern of mixed delimiters. -/
inductive MixedPattern where
  /-- An expression opener and a percent sign, with any blanks between them. -/
  | expressionThenPercent
  /-- A percent sign and an expression closer, with any blanks between them. -/
  | percentThenExpression
  /-- A comment delimiter with a percent sign on its inner side. -/
  | commentPercent
  /-- A statement delimiter with a number sign on its inner side. -/
  | statementHash
  deriving DecidableEq, Repr

namespace MixedPattern

/-- All patterns. -/
def all : List MixedPattern :=
  [expressionThenPercent, percentThenExpression, commentPercent, statementHash]

/-- The length of `first`, any blanks and `last` at the start of a text. -/
def aroundBlanks? (first last t : Text) : Option Nat :=
  if first.isPrefixOf t then
    let blanks := (t.drop first.length).takeWhile isBlank
    if last.isPrefixOf ((t.drop first.length).drop blanks.length) then
      some (first.length + blanks.length + last.length)
    else none
  else none

/-- The length of whichever of the words stands at the start of a text. -/
def oneOf? (words : List Text) (t : Text) : Option Nat :=
  (words.find? (·.isPrefixOf t)).map (·.length)

/-- The length of the match at the start of a text. -/
def match? : MixedPattern → Text → Option Nat
  | expressionThenPercent => aroundBlanks? ['{', '{'] ['%']
  | percentThenExpression => aroundBlanks? ['%'] ['}', '}']
  | commentPercent => oneOf? [['{', '#', '%'], ['%', '#', '}']]
  | statementHash => oneOf? [['{', '%', '#'], ['#', '%', '}']]

/-- The matches in the text that is left, which starts at `offset`; its first `skip` characters
belong to the match before. -/
def matchesFrom (p : MixedPattern) (offset skip : Nat) : Text → List (Span Nat)
  | [] => []
  | c :: rest =>
    match skip with
    | n + 1 => p.matchesFrom (offset + 1) n rest
    | 0 =>
      match p.match? (c :: rest) with
      | some n => ⟨offset, offset + n⟩ :: p.matchesFrom (offset + 1) (n - 1) rest
      | none => p.matchesFrom (offset + 1) 0 rest

/-- The matches in a text, from left to right and without overlap. -/
def spans (p : MixedPattern) (t : Text) : List (Span Nat) := p.matchesFrom 0 0 t

end MixedPattern

namespace Text

/-- The spans of all mixed delimiters, in the order of the text. -/
def mixedSpans (t : Text) : List (Span Nat) :=
  (MixedPattern.all.flatMap (·.spans t)).mergeSort Span.before

/-- A finding for each mixed delimiter. -/
def mixedDelimiters (t : Text) : List Finding :=
  t.mixedSpans.map fun span ↦ ⟨span, .mixedDelimiters, .error⟩

end Text

end TemplateAssist
