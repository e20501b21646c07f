/-!
# Texts, offsets and slices

A text is the list of its code points, so that offsets, lengths and slices all count code points
and a scan of a text is a recursion on it.  This file has the few operations the rest of the
library cuts texts with:

* `Text.slice` — the characters between two offsets;
* `Text.place` — the offset a signed position stands for.  A position below zero counts back from
  the end of the text, and one outside the text is moved to its nearer end;
* `Text.trailing` and `Text.beforeTrailing` — the longest run of characters of one class at the
  end of a text, and what stands before it;
* `Text.upTo` — what stands before the first separator;
* `Text.find?` — the first occurrence of one text in another.
-/

set_option autoImplicit false

namespace TemplateAssist

/-- A text, as the list of its code points. -/
abbrev Text := List Char

namespace Text

/-! ## Slices -/

/-- The characters from offset `i` up to, and not including, offset `j`. -/
def slice (t : Text) (i j : Nat) : Text := (t.take j).drop i

/-- The offset that a signed position stands for: from the end if it is below zero, and always
within the text. -/
def place (t : Text) (i : Int) : Nat :=
  if i < 0 then (t.length + i).toNat else min i.toNat t.length

theorem place_natCast (t : Text) (n : Nat) : t.place n = min n t.length := by
  have h : ¬ (n : Int) < 0 := by omega
  simp [place, h]

/-- The characters between two signed positions. -/
def sliceAt (t : Text) (i j : Int) : Text := t.slice (t.place i) (t.place j)

/-- The longest run of characters of class `p` at the end of a text. -/
def trailing (p : Char → Bool) (t : Text) : Text := (t.reverse.takeWhile p).reverse

/-- What stands before the run that `trailing` gives. -/
def beforeTrailing (p : Char → Bool) (t : Text) : Text := (t.reverse.dropWhile p).reverse

theorem beforeTrailing_append_trailing (p : Char → Bool) (t : Text) :
    beforeTrailing p t ++ trailing p t = t := by
  simp [beforeTrailing, trailing, ← List.reverse_append]

/-! ## Separators -/

/-- What stands before the first `sep`, or the whole text if there is none. -/
def upTo (sep : Char) (t : Text) : Text := t.takeWhile (· ≠ sep)

/-! ## Occurrences -/

/-- The offset of the first occurrence of `needle`. -/
def find? (needle : Text) : Text → Option Nat
  | [] => if needle = [] then some 0 else none
  | c :: rest =>
    if needle.isPrefixOf (c :: rest) then some 0 else (find? needle rest).map (· + 1)

/-- Whether `needle` stands somewhere in the text. -/
def includes (t needle : Text) : Bool := (find? needle t).isSome

end Text

end TemplateAssist
