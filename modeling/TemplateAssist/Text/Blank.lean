import TemplateAssist.Text.CodeRange

/-!
# Blank characters

Blanks are the characters of Unicode that separate words: the spaces of every width, the line and
paragraph ends, and the control characters from tab to carriage return and from the file separator
to the unit separator.  The zero-width space is not one of them.

`Text.trim` removes the blanks at both ends of a text.
-/

set_option autoImplicit false

namespace TemplateAssist

/-- The blank characters. -/
def blankRanges : CodeRanges :=
  [(9, 13), (28, 32), (133, 133), (160, 160), (5760, 5760), (8192, 8202), (8232, 8233),
   (8239, 8239), (8287, 8287), (12288, 12288)]

/-- Whether a character is blank. -/
def isBlank (c : Char) : Bool := blankRanges.covers c

namespace Text

/-- The text without the blanks at its start. -/
def trimLeft (t : Text) : Text := t.dropWhile isBlank

/-- The text without the blanks at its end. -/
def trimRight (t : Text) : Text := t.beforeTrailing isBlank

/-- The text without the blanks at either end. -/
def trim (t : Text) : Text := t.trimLeft.trimRight

end Text

end TemplateAssist
