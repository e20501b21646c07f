import TemplateAssist.Text.Blank
import TemplateAssist.Text.WordChar

/-!
# Paths before the cursor

A path is one or more words joined by dots.  `dottedAccess?` finds the path before a dot that has
just been typed, or before the word being typed after it; `openExpressionPath?` finds a path at the
end of an expression that may have been opened on an earlier line.
-/

set_option autoImplicit false

namespace TemplateAssist

/-- The longest path at the end of a run of word characters and dots; it is empty if the run ends
with a dot. -/
def pathAtEnd (run : Text) : Text :=
  ['.'].intercalate ((run.splitOn '.').reverse.takeWhile (!·.isEmpty)).reverse

/-- Whether a character can be part of a path. -/
def isPathChar (c : Char) : Bool := isWordChar c || c == '.'

/-- The path before the last dot at the end of a text, and the word after that dot.  Blanks may
follow the dot, but not the word. -/
def dottedAccess? (content : Text) : Option (Text × Text) :=
  let stripped := content.trimRight
  let run := stripped.trailing isPathChar
  let word := Text.trailing (· ≠ '.') run
  let path := pathAtEnd ((Text.beforeTrailing (· ≠ '.') run).dropLast)
  if word.length = run.length ∨ (word ≠ [] ∧ stripped.length ≠ content.length) ∨ path = [] then none
  else some (path, word)

/-- A text without the newline at its end, if it has one there. -/
def dropFinalNewline (t : Text) : Text := if t.getLast? = some '\n' then t.dropLast else t

/-- The path that the whole text is, but for a newline at its end. -/
def wholePath? (t : Text) : Option Text :=
  let path := dropFinalNewline t
  if (path.splitOn '.').all fun name ↦ !name.isEmpty && name.all isWordChar then some path
  else none

/-- The path up to the end of a text, after the shortest gap that leaves one.  No closing brace may
be in the gap. -/
def pathAfterGap? : Text → Option Text
  | [] => none
  | c :: rest => (wholePath? (c :: rest)).or (if c = '}' then none else pathAfterGap? rest)

/-- The path at the end of a text, if it stands in an open expression: the leftmost expression
opener with a path after a gap leads to it. -/
def openExpressionPath? : Text → Option Text
  | [] => none
  | c :: rest =>
    (if ['{', '{'].isPrefixOf (c :: rest) then pathAfterGap? (rest.drop 1) else none).or
      (openExpressionPath? rest)

/-- The path just before a dot typed at `pos - 1`, in the expression that is open there.  Only
`lookback` characters before the cursor are searched. -/
def objectPathBefore? (t : Text) (pos lookback : Int) : Option Text :=
  openExpressionPath? (t.sliceAt (max 0 (pos - lookback)) (pos - 1))

end TemplateAssist
