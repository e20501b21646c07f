import TemplateAssist.Text.Basic

/-!
# Tables of code points

The character classes of the library beyond ASCII are those of the Unicode standard, of version 14
where a module names no other.  Each is a table of ranges of code points, ends included, in
increasing order.
-/

set_option autoImplicit false

namespace TemplateAssist

/-- A set of characters, as ranges of code points with both ends included. -/
abbrev CodeRanges := List (Nat × Nat)

/-- Whether one of the ranges covers the character. -/
def CodeRanges.covers (ranges : CodeRanges) (c : Char) : Bool :=
  ranges.any fun (lo, hi) ↦ lo ≤ c.toNat && c.toNat ≤ hi

end TemplateAssist
