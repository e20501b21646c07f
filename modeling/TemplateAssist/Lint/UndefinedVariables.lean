import TemplateAssist.Block.Basic
import TemplateAssist.Text.DecimalDigit
import TemplateAssist.Variable.Tree

/-!
# Undefined variables

An expression that is a plain reference, a name or a dotted path with perhaps some filters after
it, has to start from a known name.  Expressions that are more than that are not looked at, and
nothing is reported as long as no variables are known at all.
-/

set_option autoImplicit false

namespace TemplateAssist
namespace Reference

/-- Names that are known in every template. -/
def builtinNames : List Text := ["loop".toList, "super".toList]

/-- Whether a character spells the small letter `letter`, in either case.  The long s is a form of
the letter s. -/
def spells (letter c : Char) : Bool := c.toLower == letter || (letter == 's' && c == 'ſ')

/-- Whether a text spells a word of small letters, in either case. -/
def spellsWord (word t : Text) : Bool :=
  word.length == t.length && (word.zip t).all fun (letter, c) ↦ spells letter c

/-- Whether a text is one or more decimal digits, perhaps with a point and more digits after
them. -/
def isNumber (t : Text) : Bool :=
  match t.splitOn '.' with
  | [whole] => !whole.isEmpty && whole.all isDecimalDigit
  | [whole, fraction] =>
    !whole.isEmpty && whole.all isDecimalDigit && !fraction.isEmpty && fraction.all isDecimalDigit
  | _ => false

/-- Whether an expression is a number or one of the words for a constant. -/
def isLiteral (t : Text) : Bool :=
  isNumber t || spellsWord "true".toList t || spellsWord "false".toList t
    || spellsWord "none".toList t

/-- The expression before the first filter. -/
def base (content : Text) : Text := (content.upTo '|').trim

/-- The name that an expression starts from. -/
def root (expression : Text) : Text := expression.upTo '.'

/-- Whether an expression is taken for a plain reference. -/
def isPlain (expression : Text) : Bool :=
  !expression.any (fun c ↦ c == '[' || c == '"' || c == '\'' || c == '(' || isBlank c)
    && !isLiteral expression && !builtinNames.contains (root expression)

/-- The name in an expression block that has to be known: the root of a plain reference. -/
def required? (content : Text) : Option Text :=
  let expression := base content
  if !expression.isEmpty && isPlain expression && !(root expression).isEmpty then
    some (root expression)
  else none

/-- The finding for one block, if it is an expression that starts from an unknown name. -/
def check (tree : VariableTree) (b : Block) : List Finding :=
  match b.kind, required? b.content with
  | .expression, some name =>
    if tree.contains name then []
    else
      let start := b.contentOffset + (Text.find? name b.content).getD 0
      [⟨⟨start, start + name.length⟩, .undefinedVariable name, .error⟩]
  | _, _ => []

end Reference

/-- The findings about unknown names, block by block. -/
def undefinedVariables (tree : VariableTree) (blocks : List Block) : List Finding :=
  if tree.size = 0 then [] else blocks.flatMap (Reference.check tree)

end TemplateAssist
