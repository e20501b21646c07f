import TemplateAssist.Number.Digits
import TemplateAssist.Text.Printable

/-!
# Quoted texts

How a text is shown in a message: in single quotes, or in double quotes if it has single and no
double ones.  A backslash comes before the quote that is used and before a backslash; newlines,
carriage returns and tabs are shown by a letter, and other characters that cannot be printed by
their code point in hexadecimal digits.
-/

set_option autoImplicit false

namespace TemplateAssist

namespace Text

/-- The quote that a text is shown in. -/
def quoteFor (t : Text) : Char := if t.contains '\'' && !t.contains '"' then '"' else '\''

/-- A character as it is shown between quotes. -/
def showChar (quote c : Char) : Text :=
  if c = quote ∨ c = '\\' then ['\\', c]
  else if c = '\n' then ['\\', 'n']
  else if c = '\r' then ['\\', 'r']
  else if c = '\t' then ['\\', 't']
  else if isPrintable c then [c]
  else if c.toNat < 0x100 then ['\\', 'x'] ++ paddedDigits 16 2 c.toNat
  else if c.toNat < 0x10000 then ['\\', 'u'] ++ paddedDigits 16 4 c.toNat
  else ['\\', 'U'] ++ paddedDigits 16 8 c.toNat

/-- The text in quotes. -/
def quoted (t : Text) : Text := quoteFor t :: t.flatMap (showChar (quoteFor t)) ++ [quoteFor t]

end Text

end TemplateAssist
