import TemplateAssist.Block.Kind
import TemplateAssist.Cursor.Line
import TemplateAssist.Cursor.Path
import TemplateAssist.Settings.Basic

/-!
# What is being typed

`Text.contextAt` classifies the place of the cursor by the line up to the cursor, and by a few
characters after it.  Templates are incomplete while they are typed, so nothing is an error here:
what is not recognised is prose.
-/

set_option autoImplicit false

namespace TemplateAssist

/-- Where the cursor stands. -/
inductive Context where
  /-- In plain text. -/
  | prose
  /-- After a lone opening brace at `start` and the beginning of a word; `stop` is the cursor. -/
  | brace (word : Text) (start stop : Nat)
  /-- In a block, with the trimmed text typed in it so far.  `closed` says whether the closer was
  seen ahead. -/
  | block (kind : BlockKind) (typed : Text) (closed : Bool)
  /-- In an expression, after the dot that follows a path, or in the word after that dot. -/
  | property (path typed : Text) (closed : Bool)
  deriving DecidableEq, Repr

namespace Context

/-- The name of the kind of context. -/
def name : Context → String
  | prose => "none"
  | brace .. => "partial"
  | block kind .. => kind.name
  | property .. => "property_access"

/-- The text typed so far, which candidates have to start with. -/
def typed : Context → Text
  | prose => []
  | brace word .. => word
  | block _ typed _ => typed
  | property _ typed _ => typed

/-- Whether the closer of the open block was seen ahead. -/
def closed? : Context → Option Bool
  | block _ _ closed => some closed
  | property _ _ closed => some closed
  | _ => none

/-- The path before the dot. -/
def path? : Context → Option Text
  | property path .. => some path
  | _ => none

/-- The start of what a block starter replaces. -/
def start? : Context → Option Nat
  | brace _ start _ => some start
  | _ => none

/-- The end of what a block starter replaces. -/
def stop? : Context → Option Nat
  | brace _ _ stop => some stop
  | _ => none

end Context

/-- A lone opening brace with only word characters after it at the end of a line: its offset, and
the word. -/
def loneBrace? (line : Text) : Option (Nat × Text) :=
  let word := line.trailingWord
  let head := line.beforeTrailing isWordChar
  if (Text.trailing (· == '{') head).length = 1 then some (head.length - 1, word) else none

/-- Whether a character keeps every opener before it from being open. -/
def isBlocking (c : Char) : Bool := c == '}' || c == '%' || c == '#'

/-- The first opener in a text: its kind, and the text after it. -/
def firstOpener? : Text → Option (BlockKind × Text)
  | [] => none
  | c :: rest => (BlockKind.opening? (c :: rest)).or (firstOpener? rest)

/-- The leftmost opener in a line that nothing after it closes: its kind, and the text after it
without the blanks at its start.  The last blocking character may itself be part of that opener,
so the search starts one character before it. -/
def openBlock? (line : Text) : Option (BlockKind × Text) :=
  let after := Text.trailing (!isBlocking ·) line
  (firstOpener? (line.drop (line.length - after.length - 2))).map fun (kind, rest) ↦
    (kind, Text.trimLeft rest)

/-- Whether the closer of a kind stands in the window after the cursor. -/
def closerAhead (settings : Settings) (t : Text) (pos : Nat) (kind : BlockKind) : Bool :=
  (t.slice pos (pos + settings.closingLookahead)).includes kind.closer

/-- The context in a block of some kind in which `content` has been typed. -/
def blockContext (kind : BlockKind) (content : Text) (closed : Bool) : Context :=
  match kind, dottedAccess? content with
  | .expression, some (path, word) => .property path word closed
  | _, _ => .block kind content.trim closed

/-- The context at a cursor within the text. -/
def Text.contextWithin (settings : Settings) (t : Text) (pos : Nat) : Context :=
  let (start, line) := t.lineBefore pos
  match loneBrace? line with
  | some (brace, word) => .brace word (start + brace) pos
  | none =>
    match openBlock? line with
    | some (kind, content) => blockContext kind content (closerAhead settings t pos kind)
    | none => .prose

/-- The context at a cursor, which is moved into the text first. -/
def Text.contextAt (settings : Settings) (t : Text) (pos : Int) : Context :=
  t.contextWithin settings (t.clamp pos)

end TemplateAssist
