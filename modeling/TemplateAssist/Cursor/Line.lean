import TemplateAssist.Text.Basic

/-!
# Lines

Positions are given as signed offsets.  A cursor outside the text is moved to its nearer end by
`Text.clamp`; the functions on lines read a position as `Text.place` does, from the end of the text
if it is below zero.
-/

set_option autoImplicit false

namespace TemplateAssist
namespace Text

/-- A cursor position moved into the text. -/
def clamp (t : Text) (pos : Int) : Nat := min pos.toNat t.length

theorem clamp_le (t : Text) (pos : Int) : t.clamp pos ≤ t.length := Nat.min_le_right _ _

/-- The offset at which the line of a position starts, and the line up to the position. -/
def lineBefore (t : Text) (pos : Int) : Nat × Text :=
  let head := t.take (t.place pos)
  let line := Text.trailing (· ≠ '\n') head
  (head.length - line.length, line)

/-- The line and the column of an offset, both counted from one. -/
def lineColumn (t : Text) (offset : Int) : Nat × Int :=
  ((t.take (t.place offset)).count '\n' + 1, offset - (t.lineBefore offset).1 + 1)

end Text
end TemplateAssist
