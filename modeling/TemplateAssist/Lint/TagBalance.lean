import TemplateAssist.Block.Basic
import TemplateAssist.Settings.Basic
import TemplateAssist.Text.Blank
import TemplateAssist.Text.WordChar

/-!
# Balance of tags

The statements of a document are read in order, with the tags whose bodies are still open kept on
a stack.  An end tag closes the innermost open body if that is its own.  Otherwise it is reported
and the stack is left as it is, so a body that was opened is either closed by its own end tag or
reported at the end.

Findings come in the order of the document; those for unclosed bodies follow, outermost first.
-/

set_option autoImplicit false

namespace TemplateAssist

/-- The content of a statement after the sign, if there is one, that controls the blanks around the
statement. -/
def unsigned : Text → Text
  | '-' :: rest => rest
  | '+' :: rest => rest
  | content => content

/-- The first word of a statement, and the offset of it in the statement's content. -/
def firstWord? (content : Text) : Option (Nat × Text) :=
  let start := (unsigned content).trimLeft
  let word := start.takeWhile isWordChar
  if word.isEmpty then none else some (content.length - start.length, word)

/-- Whether a `set` statement assigns a value on the spot, so that it has no body. -/
def isInlineSet (content : Text) : Bool := content.contains '='

namespace TagBalance

/-- A tag whose body is open, with the span of its block. -/
structure Pending where
  tag : Tag
  span : Span Nat
  deriving DecidableEq, Repr

/-- What the first word of a statement says about bodies. -/
inductive Event where
  /-- It opens a body. -/
  | opens (tag : Tag)
  /-- It closes a body. -/
  | closes (tag : Tag)
  /-- It looks like an end tag and is none. -/
  | invalid
  /-- It has nothing to do with bodies. -/
  | neutral
  deriving DecidableEq, Repr

/-- The event of a statement with first word `word`. -/
def event (settings : Settings) (content word : Text) : Event :=
  match Tag.ofWord? word with
  | some tag =>
    if tag = .setTag && settings.inlineSetCloses && isInlineSet content then .neutral
    else .opens tag
  | none =>
    match Tag.ofEndWord? word with
    | some tag => .closes tag
    | none => if "end".toList.isPrefixOf word then .invalid else .neutral

/-- The finding for a first word at `span` that is a frequent misspelling. -/
def misspelling (span : Span Nat) (word : Text) : List Finding :=
  ((meantWord? word).map fun meant ↦ ⟨span, .misspelt meant, .error⟩).toList

/-- What one event at a block does to the stack (innermost first), and what it reports. -/
def react (b : Block) (wordSpan : Span Nat) (word : Text) (stack : List Pending) :
    Event → List Pending × List Finding
  | .opens tag => (⟨tag, b.span⟩ :: stack, [])
  | .closes tag =>
    match stack with
    | [] => ([], [⟨b.span, .unexpectedEnd tag, .error⟩])
    | top :: below =>
      if top.tag = tag then (below, [])
      else (stack, [⟨b.span, .wrongEnd top.tag tag, .error⟩])
  | .invalid => (stack, [⟨wordSpan, .invalidEnd word, .error⟩])
  | .neutral => (stack, [])

/-- What a block does to the stack, and what it reports. -/
def visit (settings : Settings) (b : Block) (stack : List Pending) :
    List Pending × List Finding :=
  match b.kind, firstWord? b.content with
  | .statement, some (offset, word) =>
    let start := b.contentOffset + offset
    let wordSpan : Span Nat := ⟨start, start + word.length⟩
    let (stack', found) := react b wordSpan word stack (event settings b.content word)
    (stack', misspelling wordSpan word ++ found)
  | _, _ => (stack, [])

/-- The finding for a body that stays open. -/
def Pending.unclosed (p : Pending) : Finding := ⟨p.span, .unclosedTag p.tag, .error⟩

/-- The findings for the remaining blocks when the bodies on `stack` are open. -/
def check (settings : Settings) (stack : List Pending) : List Block → List Finding
  | [] => stack.reverse.map Pending.unclosed
  | b :: rest =>
    let (stack', found) := visit settings b stack
    found ++ check settings stack' rest

end TagBalance

/-- The findings about the tags of a document. -/
def tagBalance (settings : Settings) (blocks : List Block) : List Finding :=
  TagBalance.check settings [] blocks

end TemplateAssist
