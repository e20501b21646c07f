import TemplateAssist.Text.Blank
import TemplateAssist.Text.Cluster

/-!
# Lines on a terminal

A text is shown in lines of a limited width.  Words stay whole where they can: a line takes words
as long as they fit, and the blanks after its last word may go over the end.  `Overflow` says what
becomes of a word that is wider than a whole line.
-/

set_option autoImplicit false

namespace TemplateAssist

/-- What becomes of a word that is wider than a line. -/
inductive Overflow where
  /-- It goes on in the next line. -/
  | fold
  /-- It is cut, and an ellipsis stands for the rest. -/
  | ellipsis
  deriving DecidableEq, Repr

namespace Text

/-! ## Characters that take no place of their own -/

/-- Whether a character is not shown at all: it rings a bell or moves the cursor. -/
def isCursorControl (c : Char) : Bool := [7, 8, 11, 12, 13].contains c.toNat

/-- The distance of the places that a tab moves to. -/
def tabDistance : Nat := 8

/-- The parts of a line between its tabs, of which the first starts in some column, with blanks for
the tabs. -/
def expandTabs (column : Nat) : List Text → Text
  | [] => []
  | [part] => part
  | part :: rest =>
    let part := part ++ [' ']
    let column := column + part.width
    let gap := (tabDistance - column % tabDistance) % tabDistance
    part ++ List.replicate gap ' ' ++ expandTabs (column + gap) rest

/-! ## Filling lines -/

/-- The words of a line with the blanks after each, and those before the first.  They make up the
whole line. -/
def paddedWords (line : Text) : List Text :=
  match line.splitBy fun a b ↦ !isBlank a || isBlank b with
  | first :: second :: rest =>
    if first.all isBlank then (first ++ second) :: rest else first :: second :: rest
  | groups => groups

/-- The pieces of the remaining clusters, none wider than `width`; the characters in `piece` belong
to the first one and take `used` columns. -/
def chop (width used : Nat) (piece : Text) : List Cluster → List Text
  | [] => [piece]
  | cluster :: rest =>
    if width < used + cluster.width then
      piece :: chop width cluster.width cluster.chars rest
    else chop width (used + cluster.width) (piece ++ cluster.chars) rest

/-- The lines that words fill, where `line` is filled so far and its words take `used` columns. -/
def fill (overflow : Overflow) (width used : Nat) (line : Text) : List Text → List Text
  | [] => [line]
  | word :: rest =>
    let needed := word.trimRight.width
    if used + needed ≤ width then fill overflow width (used + word.width) (line ++ word) rest
    else
      let pieces :=
        if overflow = .fold ∧ width < needed then chop width 0 [] word.clusters else [word]
      let last := pieces.getLastD []
      (if line.isEmpty then [] else [line]) ++ pieces.dropLast
        ++ fill overflow width last.width last rest

/-! ## Cutting lines -/

/-- A line without the blanks by which it is too long. -/
def dropExcess (width : Nat) (line : Text) : Text :=
  line.take (line.length - min (line.trailing isBlank).length (line.length - width))

/-- As many clusters as take `width` columns.  Of a wide cluster cut in two, a blank is left. -/
def takeWidth (width : Nat) : List Cluster → Text
  | [] => []
  | cluster :: rest =>
    if cluster.width ≤ width then cluster.chars ++ takeWidth (width - cluster.width) rest
    else List.replicate width ' '

/-- A line cut to a width. -/
def cut (overflow : Overflow) (width : Nat) (line : Text) : Text :=
  if line.width ≤ width then line
  else
    match overflow with
    | .fold => takeWidth width line.clusters
    | .ellipsis => takeWidth (width - 1) line.clusters ++ ['…']

/-- The lines that a text fills.  One that holds a word too wide for it, or a blank that did not
fit, is still to be cut. -/
def filledLines (overflow : Overflow) (width : Nat) (t : Text) : List Text :=
  (List.splitOn '\n' (t.filter (!isCursorControl ·))).flatMap fun line ↦
    let line := expandTabs 0 (List.splitOn '\t' line)
    (fill overflow width 0 [] (paddedWords line)).map (dropExcess width)

/-- The lines in which a text is shown. -/
def shownLines (overflow : Overflow) (width : Nat) (t : Text) : List Text :=
  (filledLines overflow width t).map (cut overflow width)

/-- The text as it is shown, each line ended by a newline. -/
def shown (width : Nat) (t : Text) : Text :=
  (shownLines .fold width t).flatMap (· ++ ['\n'])

/-! ## Measuring -/

/-- Whether a character that is shown ends a line when a text is measured. -/
def isLineEnd (c : Char) : Bool :=
  [0x0A, 0x1C, 0x1D, 0x1E, 0x85, 0x2028, 0x2029].contains c.toNat

/-- The width of the widest line of a text, with tabs not yet expanded. -/
def widest (t : Text) : Nat :=
  (((t.filter (!isCursorControl ·)).splitOnP isLineEnd).map Text.width).foldl max 0

end Text

end TemplateAssist
