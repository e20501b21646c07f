import TemplateAssist.Report.Emoji
import TemplateAssist.Report.Parameters
import TemplateAssist.Report.Style

/-!
# Styled text

Text for the terminal may be styled by tags in square brackets: `[bold]` starts a style, `[/bold]`
ends it, and `[/]` ends the style that was started last.  The terminal shows no styles here, so
only the text without its tags is left, with emoji for the codes in it.  A tag starts with a small
letter, `#`, `/` or `@`; other brackets are text.  A backslash before a tag makes it text.

* `Markup.plain?` gives the text that is shown, and fails if a tag cannot be used.
* `Markup.escape` makes tags in a text stand for themselves.
-/

set_option autoImplicit false

namespace TemplateAssist
namespace Markup

/-- What is wrong with a tag. -/
inductive Fault where
  /-- It ends a style that is not open. -/
  | unmatched (tag : Text)
  /-- The parameters of its handler are no literals. -/
  | parameters (given : Text)
  /-- A part of its colour is no number. -/
  | colour (style : Text)
  deriving DecidableEq, Repr

/-- The text at fault. -/
def Fault.place : Fault → Text
  | unmatched tag => tag
  | parameters given => given
  | colour style => style

/-! ## Tags in a text -/

/-- Whether a tag can start with a character. -/
def startsTag (c : Char) : Bool := ('a' ≤ c && c ≤ 'z') || c == '#' || c == '/' || c == '@'

/-- The inside of the tag that starts just before a text, with an opening bracket. -/
def tag? (t : Text) : Option Text :=
  let body := t.takeWhile fun c ↦ c ≠ ']' && c ≠ '['
  if (body.head?.map startsTag).getD false && t[body.length]? == some ']' then some body else none

/-- A part of a styled text. -/
inductive Piece where
  | text (t : Text)
  /-- The inside of a tag. -/
  | tag (t : Text)
  deriving DecidableEq, Repr

/-- The backslashes and the tag after them as pieces: each pair of backslashes is one, and one that
is left makes the tag text. -/
def tagPieces (slashes : Nat) (tag : Text) : List Piece :=
  [.text (List.replicate (slashes / 2) '\\'),
    if slashes % 2 = 1 then .text ('[' :: tag ++ [']']) else .tag tag]

/-- The pieces of the remaining text.  The first one starts with the characters of `before` (the
last one first), `slashes` backslashes stand between them and the remaining text, and its first
`skip` characters belong to a tag.  One backslash before a bracket that starts no tag is left
out. -/
def piecesFrom (before : Text) (slashes skip : Nat) : Text → List Piece
  | [] => [.text (before.reverse ++ List.replicate slashes '\\')]
  | c :: rest =>
    match skip with
    | n + 1 => piecesFrom before 0 n rest
    | 0 =>
      if c = '\\' then piecesFrom before (slashes + 1) 0 rest
      else if c = '[' then
        match tag? rest with
        | none => piecesFrom (c :: List.replicate (slashes - 1) '\\' ++ before) 0 0 rest
        | some tag =>
          .text before.reverse :: tagPieces slashes tag ++ piecesFrom [] 0 (tag.length + 1) rest
      else piecesFrom (c :: List.replicate slashes '\\' ++ before) 0 0 rest

/-- The pieces of a text. -/
def pieces (t : Text) : List Piece := piecesFrom [] 0 0 t

/-! ## Open styles -/

/-- A tag that starts a style. -/
structure OpenTag where
  /-- The normal form of the style. -/
  name : Text
  /-- What follows an equals sign. -/
  parameters : Option Text
  deriving DecidableEq, Repr

/-- The normal form of a style that a tag names. -/
def nameOf (t : Text) : Except Fault Text := (styleName? t).mapError fun _ ↦ .colour t

/-- The tag with the given inside. -/
def OpenTag.ofText (t : Text) : Except Fault OpenTag := do
  let name := t.upTo '='
  let parameters := if name.length < t.length then some (t.drop (name.length + 1)) else none
  return ⟨← nameOf name, parameters⟩

/-- Checks a handler when its tag is closed. -/
def OpenTag.checkHandler (tag : OpenTag) : Except Fault Unit :=
  let given := tag.parameters.getD []
  if tag.name.head? = some '@' && !given.isEmpty && !Parameters.areLiteral given then
    .error (.parameters given)
  else .ok ()

/-- Checks the style that a tag and its parameters together describe.  One that is not known has no
effect. -/
def OpenTag.checkStyle (tag : OpenTag) : Except Fault Unit :=
  match tag.parameters with
  | none => .ok ()
  | some given =>
    let style := tag.name ++ ' ' :: given
    match Style.ofWords? style with
    | .error .noNumber => .error (.colour style)
    | _ => .ok ()

/-- The open tag that a closing tag ends, and those that stay open.  `closing` is the inside of the
closing tag after its slash, and `opened` are the open tags, innermost first. -/
def close (opened : List OpenTag) (closing : Text) : Except Fault (OpenTag × List OpenTag) := do
  let style := (closing.upTo '=').trim
  let name ← if style.isEmpty then pure none else some <$> nameOf style
  match opened.find? fun tag ↦ name.all (tag.name = ·) with
  | some tag => return (tag, opened.eraseP fun tag ↦ name.all (tag.name = ·))
  | none => throw (.unmatched ('/' :: closing))

/-- The text that pieces show, where the tags of `opened` are open and those of `used` are
closed. -/
def shownText (opened used : List OpenTag) : List Piece → Except Fault Text
  | [] => do
    (opened ++ used).forM OpenTag.checkStyle
    return []
  | .text t :: rest => do return Emoji.expand t ++ (← shownText opened used rest)
  | .tag ('/' :: closing) :: rest => do
    let (tag, opened) ← close opened closing
    tag.checkHandler
    shownText opened (tag :: used) rest
  | .tag t :: rest => do shownText ((← OpenTag.ofText t) :: opened) used rest

/-- The text that a styled text shows. -/
def plain? (t : Text) : Except Fault Text := shownText [] [] (pieces t)

/-! ## Escaped text -/

/-- The remaining text with its tags escaped, where `slashes` backslashes stand before it and its
first `skip` characters belong to a tag. -/
def escapeFrom (slashes skip : Nat) : Text → Text
  | [] => List.replicate slashes '\\'
  | c :: rest =>
    match skip with
    | n + 1 => c :: escapeFrom 0 n rest
    | 0 =>
      if c = '\\' then escapeFrom (slashes + 1) 0 rest
      else if c = '[' then
        match tag? rest with
        | none => List.replicate slashes '\\' ++ c :: escapeFrom 0 0 rest
        | some tag =>
          List.replicate (2 * slashes + 1) '\\' ++ c :: escapeFrom 0 (tag.length + 1) rest
      else List.replicate slashes '\\' ++ c :: escapeFrom 0 0 rest

/-- The text with its tags escaped.  A single backslash at its end is doubled, so that it does not
act on what follows. -/
def escape (t : Text) : Text :=
  let escaped := escapeFrom 0 0 t
  if (escaped.trailing (· = '\\')).length = 1 then escaped ++ ['\\'] else escaped

end Markup
end TemplateAssist
