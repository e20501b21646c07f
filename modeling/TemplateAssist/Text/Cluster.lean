import TemplateAssist.Text.Width

/-!
# Width of a text

What a reader sees as one character can be several in a text: a letter with its marks, or a chain of
pictographs tied together by joiners.  A `Cluster` is such a group with the columns that it takes.

* `Text.clusters` cuts a text into clusters, of which only the first one can have no width.
* `Text.width` is the number of columns of a whole text.
-/

set_option autoImplicit false

namespace TemplateAssist

/-- Characters that are shown as one, and the number of columns that they take. -/
structure Cluster where
  chars : Text
  width : Nat
  deriving DecidableEq, Repr

namespace Text

/-- The joiner, which ties the next character to the one before it.  That one takes no column. -/
def joiner : Char := '\u200d'

/-- The selector, which asks for the character before it to be shown as a pictograph. -/
def pictographSelector : Char := '\ufe0f'

/-- The clusters of the remaining text.  The first one starts with the characters of `cluster` (the
last one first), which take `width` columns; a selector acts on `base`, if there is one. -/
def clustersFrom (cluster : Text) (width : Nat) (base : Option Char) : Text → List Cluster
  | [] => [⟨cluster.reverse, width⟩]
  | c :: rest =>
    if c = joiner then
      match rest with
      | [] => [⟨(c :: cluster).reverse, width⟩]
      | tied :: rest => clustersFrom (tied :: c :: cluster) width base rest
    else if c = pictographSelector then
      clustersFrom (c :: cluster) (width + if base.any isWidened then 1 else 0) none rest
    else if charWidth c = 0 then clustersFrom (c :: cluster) width base rest
    else ⟨cluster.reverse, width⟩ :: clustersFrom [c] (charWidth c) (some c) rest

/-- The clusters of a text.  A character without a width belongs to the cluster before it. -/
def clusters : Text → List Cluster
  | [] => []
  | c :: rest => clustersFrom [c] (charWidth c) (some c) rest

/-- The text without the joiners that it starts with, and without what they tie to nothing. -/
def dropJoined : Text → Text
  | [] => []
  | c :: rest =>
    if c = joiner then
      match rest with
      | [] => []
      | _ :: rest => dropJoined rest
    else c :: rest

/-- The number of columns that a text on one line takes. -/
def width (t : Text) : Nat := (t.dropJoined.clusters.map (·.width)).foldl (· + ·) 0

end Text

end TemplateAssist
