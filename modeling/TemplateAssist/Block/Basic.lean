import TemplateAssist.Block.Kind
import TemplateAssist.Diagnostic
import TemplateAssist.Text.Blank

/-!
# Blocks

A `Block` is one correctly delimited piece of a template, placed in the text it was found in.  Its
delimiters follow from its kind, so only the content is kept: trimmed, with the offset of its
first character.

An `Item` is anything that reading a text for blocks can come upon: a block, or one of the two
ways in which a block can be broken.
-/

set_option autoImplicit false

namespace TemplateAssist

/-- One correctly delimited block. -/
structure Block where
  kind : BlockKind
  /-- The offset of the opener. -/
  start : Nat
  /-- The offset just after the closer. -/
  stop : Nat
  /-- The text between the delimiters, trimmed. -/
  content : Text
  /-- The offset of the first character of `content`. -/
  contentOffset : Nat
  deriving DecidableEq, Repr

namespace Block

/-- The whole block, delimiters included. -/
def span (b : Block) : Span Nat := ⟨b.start, b.stop⟩

/-- The block with opener at `start` and the untrimmed text `raw` between its delimiters.  The
content of a block of blanks only is empty and stands at the closer. -/
def ofRaw (kind : BlockKind) (start : Nat) (raw : Text) : Block where
  kind := kind
  start := start
  stop := start + 2 + raw.length + 2
  content := raw.trim
  contentOffset := start + 2 + (raw.length - raw.trimLeft.length)

/-- The block moved `n` further on. -/
def shift (n : Nat) (b : Block) : Block :=
  { b with start := b.start + n, stop := b.stop + n, contentOffset := b.contentOffset + n }

end Block

/-- What reading a text for blocks comes upon, in the order of the text. -/
inductive Item where
  /-- A correctly delimited block. -/
  | block (b : Block)
  /-- The closer at `offset` is not the one that the open block needs. -/
  | mismatch (offset : Nat) (expected found : BlockKind)
  /-- The block opened at `start` runs to the end of the text, at `stop`. -/
  | unclosed (start stop : Nat)
  deriving DecidableEq, Repr

namespace Item

/-- The block, if the item is one. -/
def block? : Item → Option Block
  | block b => some b
  | _ => none

/-- The finding, if the item is a broken block. -/
def finding? : Item → Option Finding
  | block _ => none
  | mismatch offset expected found =>
    some ⟨⟨offset, offset + 2⟩, .mismatchedCloser expected found, .error⟩
  | unclosed start stop => some ⟨⟨start, stop⟩, .unclosedBlock, .error⟩

/-- The part of the text that the item speaks of. -/
def span : Item → Span Nat
  | block b => b.span
  | mismatch offset _ _ => ⟨offset, offset + 2⟩
  | unclosed start stop => ⟨start, stop⟩

end Item

end TemplateAssist
