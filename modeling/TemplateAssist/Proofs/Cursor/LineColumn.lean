import Mathlib
import TemplateAssist.Proofs.Text.Segments
import TemplateAssist.Proofs.Text.Trailing

/-!
# Lines and columns

`Text.lineColumn` makes two searches in the text before an offset: it counts the newlines for the
line, and goes back to the last of them for the column.  Both searches agree with one cut of the
text into lines:

* `Text.IsPlace` — the places in a text are the columns of its lines, with one more at the end of
  each line for the newline, or the end of the text;
* `Text.offsetAt` — going the other way, a place is found by counting off the lines before it, each
  with its newline;
* `Text.lineColumn_bijOn_strictMonoOn` — the two are inverse to each other, so that there is one
  place for each offset, and places come in the order of the offsets.

Both directions go through `Text.StartsWithLines`, which cuts a text after some of its lines and a
part of the next one.
-/

set_option autoImplicit false

namespace TemplateAssist
namespace Text

/-! ## Places -/

/-- The lines of a text, without the newlines between them. -/
def lines (t : Text) : List Text := t.splitOn '\n'

/-- The number of characters that some lines take up, each with the newline after it. -/
def extent (lines : List Text) : Nat := (lines.map fun line ↦ line.length + 1).sum

/-- A line of the text and a column of that line, both counted from one.  The column after the last
character of a line belongs to it. -/
structure IsPlace (t : Text) (place : Nat × Int) : Prop where
  one_le_line : 1 ≤ place.1
  line_le : place.1 ≤ t.lines.length
  one_le_column : 1 ≤ place.2
  column_le : ∀ line ∈ t.lines[place.1 - 1]?, place.2 ≤ line.length + 1

/-- The offset of a place: the lines before it, and the columns before it. -/
def offsetAt (t : Text) (place : Nat × Int) : Int :=
  extent (t.lines.take (place.1 - 1)) + (place.2 - 1)

/-! ## Some lines and a part of the next one -/

/-- The first lines of the text are `before`, and the next one has `n` characters or more. -/
def StartsWithLines (t : Text) (before : List Text) (n : Nat) : Prop :=
  ∃ line after, t.lines = before ++ line :: after ∧ n ≤ line.length

@[simp]
theorem extent_cons (line : Text) (lines : List Text) :
    extent (line :: lines) = line.length + 1 + extent lines := rfl

@[simp]
theorem extent_append (before after : List Text) :
    extent (before ++ after) = extent before + extent after := by
  simp [extent]

theorem newline_not_mem_of_mem_lines {t line : Text} (h : line ∈ t.lines) : '\n' ∉ line :=
  not_mem_of_mem_splitOn h

theorem intercalate_lines (t : Text) : ['\n'].intercalate t.lines = t :=
  List.intercalate_splitOn '\n'

theorem intercalate_append_cons (before : List Text) (line : Text) (after : List Text) :
    ['\n'].intercalate (before ++ line :: after)
      = before.flatMap (· ++ ['\n']) ++ ['\n'].intercalate (line :: after) := by
  induction before with
  | nil => rfl
  | cons first before ih =>
    rw [List.cons_append, List.intercalate_cons_of_ne_nil (by simp), ih, List.flatMap_cons,
      List.append_assoc _ _ (List.intercalate _ _)]

theorem length_flatMap_newline (before : List Text) :
    (before.flatMap (· ++ ['\n'])).length = extent before := by
  simp [extent, List.length_flatMap]

theorem count_flatMap_newline {before : List Text} (h : ∀ line ∈ before, '\n' ∉ line) :
    (before.flatMap (· ++ ['\n'])).count '\n' = before.length := by
  induction before with
  | nil => rfl
  | cons line before ih =>
    have hline : line.count '\n' = 0 := List.count_eq_zero.2 (h line List.mem_cons_self)
    rw [List.flatMap_cons, List.count_append, ih fun l hl ↦ h l (List.mem_cons_of_mem line hl)]
    simp [hline, Nat.add_comm]

theorem trailing_flatMap_newline (before : List Text) :
    trailing (· ≠ '\n') (before.flatMap (· ++ ['\n'])) = [] := by
  rcases List.eq_nil_or_concat' before with rfl | ⟨init, last, rfl⟩
  · rfl
  · rw [List.flatMap_append, List.flatMap_singleton, ← List.append_assoc]
    exact trailing_concat _ rfl

/-- The text up to the end of the part. -/
theorem StartsWithLines.take_eq {t : Text} {before : List Text} {n : Nat}
    (h : t.StartsWithLines before n) :
    ∃ part : Text, t.take (extent before + n) = before.flatMap (· ++ ['\n']) ++ part ∧
      part.length = n ∧ '\n' ∉ part := by
  obtain ⟨line, after, hlines, hn⟩ := h
  have hnewline : '\n' ∉ line := newline_not_mem_of_mem_lines (t := t) (by simp [hlines])
  have htext : t = before.flatMap (· ++ ['\n']) ++ ['\n'].intercalate (line :: after) := by
    rw [← intercalate_append_cons, ← hlines, intercalate_lines]
  have hline : line <+: ['\n'].intercalate (line :: after) := by
    by_cases hafter : after = []
    · simp [hafter]
    · rw [List.intercalate_cons_of_ne_nil hafter, List.append_assoc]
      exact List.prefix_append line _
  refine ⟨line.take n, ?_, List.length_take_of_le hn, fun hmem ↦
    hnewline (List.mem_of_mem_take hmem)⟩
  obtain ⟨rest, hrest⟩ := hline
  rw [htext, ← length_flatMap_newline, List.take_length_add_append, ← hrest,
    List.take_append_of_le_length hn]

theorem extent_lines (t : Text) : extent t.lines = t.length + 1 := by
  obtain ⟨init, last, hlines⟩ :=
    (List.eq_nil_or_concat' t.lines).resolve_left (List.splitOn_ne_nil '\n' t)
  have htext : t = init.flatMap (· ++ ['\n']) ++ last := by
    rw [← intercalate_lines t, hlines, intercalate_append_cons, List.intercalate_singleton]
  have hlength := congrArg List.length htext
  rw [List.length_append, length_flatMap_newline] at hlength
  rw [hlines, hlength, extent_append, Nat.add_assoc]
  rfl

/-- Counting off lines stops in the line of the offset. -/
theorem exists_of_lt_extent {lines : List Text} {offset : Nat} (h : offset < extent lines) :
    ∃ before line after n, lines = before ++ line :: after ∧ n ≤ line.length ∧
      offset = extent before + n := by
  induction lines generalizing offset with
  | nil => cases h
  | cons first lines ih =>
    by_cases hfirst : offset ≤ first.length
    · exact ⟨[], first, lines, offset, rfl, hfirst, (Nat.zero_add offset).symm⟩
    · rw [extent_cons] at h
      have hrest : offset - (first.length + 1) < extent lines := by omega
      obtain ⟨before, line, after, n, rfl, hn, hoffset⟩ := ih hrest
      refine ⟨first :: before, line, after, n, rfl, hn, ?_⟩
      rw [extent_cons]
      omega

theorem exists_startsWithLines {t : Text} {offset : Nat} (h : offset ≤ t.length) :
    ∃ before n, t.StartsWithLines before n ∧ offset = extent before + n := by
  have hlt : offset < extent t.lines := by
    rw [extent_lines]
    omega
  obtain ⟨before, line, after, n, hlines, hn, hoffset⟩ := exists_of_lt_extent hlt
  exact ⟨before, n, ⟨line, after, hlines, hn⟩, hoffset⟩

namespace StartsWithLines

variable {t : Text} {before : List Text} {n : Nat}

theorem extent_add_le (h : t.StartsWithLines before n) : extent before + n ≤ t.length := by
  obtain ⟨line, after, hlines, hn⟩ := h
  have hextent := t.extent_lines
  rw [hlines, extent_append, extent_cons] at hextent
  omega

/-- The two searches find the end of the part. -/
theorem lineColumn_eq (h : t.StartsWithLines before n) :
    t.lineColumn (extent before + n : Nat) = (before.length + 1, (n + 1 : Int)) := by
  have hle := h.extent_add_le
  obtain ⟨part, htake, hlength, hpart⟩ := h.take_eq
  have hcount : (t.take (extent before + n)).count '\n' = before.length := by
    obtain ⟨line, after, hlines, -⟩ := h
    have hbefore : ∀ l ∈ before, '\n' ∉ l := fun l hl ↦
      newline_not_mem_of_mem_lines (t := t) (by simp [hlines, hl])
    rw [htake, List.count_append, count_flatMap_newline hbefore, List.count_eq_zero.2 hpart]
    rfl
  have hline : (t.lineBefore (extent before + n : Nat)).1 = extent before := by
    rw [lineBefore_natCast hle, htake, trailing_append_of_not_mem _ hpart,
      trailing_flatMap_newline, List.nil_append, hlength, Nat.add_sub_cancel]
  rw [lineColumn, place_natCast, Nat.min_eq_left hle, hcount, hline]
  refine Prod.ext rfl ?_
  simp only
  omega

theorem isPlace (h : t.StartsWithLines before n) :
    t.IsPlace (before.length + 1, (n + 1 : Int)) := by
  obtain ⟨line, after, hlines, hn⟩ := h
  have hcolumn : (1 : Int) ≤ n + 1 := by omega
  refine ⟨Nat.le_add_left 1 _, by simp [hlines], hcolumn, fun other hother ↦ ?_⟩
  obtain rfl : line = other := by simpa [hlines] using hother
  simpa using hn

theorem offsetAt_eq (h : t.StartsWithLines before n) :
    t.offsetAt (before.length + 1, (n + 1 : Int)) = (extent before + n : Nat) := by
  obtain ⟨line, after, hlines, hn⟩ := h
  simp [offsetAt, hlines]

end StartsWithLines

theorem IsPlace.exists_startsWithLines {t : Text} {place : Nat × Int} (h : t.IsPlace place) :
    ∃ before n, t.StartsWithLines before n ∧ place = (before.length + 1, (n + 1 : Int)) := by
  obtain ⟨line, column⟩ := place
  obtain ⟨hline, hlines, hcolumn, hwidth⟩ := h
  simp only at hline hlines hcolumn hwidth
  have hlt : line - 1 < t.lines.length := by omega
  have hwidth := hwidth t.lines[line - 1] (List.getElem?_eq_getElem hlt)
  refine ⟨t.lines.take (line - 1), (column - 1).toNat,
    ⟨t.lines[line - 1], t.lines.drop (line - 1 + 1), ?_, by omega⟩, ?_⟩
  · rw [List.getElem_cons_drop, List.take_append_drop]
  · rw [List.length_take_of_le (Nat.le_of_lt hlt)]
    refine Prod.ext ?_ ?_
    · simp only
      omega
    · simp only
      omega

/-! ## The two searches against the cut -/

theorem isPlace_lineColumn {t : Text} {offset : Int} (h : offset ∈ Set.Icc (0 : Int) t.length) :
    t.IsPlace (t.lineColumn offset) ∧ t.offsetAt (t.lineColumn offset) = offset := by
  obtain ⟨k, rfl⟩ := Int.eq_ofNat_of_zero_le h.1
  obtain ⟨before, n, hstarts, rfl⟩ := exists_startsWithLines (Int.ofNat_le.1 h.2)
  rw [hstarts.lineColumn_eq]
  exact ⟨hstarts.isPlace, hstarts.offsetAt_eq⟩

theorem IsPlace.lineColumn_offsetAt {t : Text} {place : Nat × Int} (h : t.IsPlace place) :
    t.offsetAt place ∈ Set.Icc (0 : Int) t.length ∧ t.lineColumn (t.offsetAt place) = place := by
  obtain ⟨before, n, hstarts, rfl⟩ := h.exists_startsWithLines
  rw [hstarts.offsetAt_eq]
  exact ⟨⟨Int.natCast_nonneg _, Int.ofNat_le.2 hstarts.extent_add_le⟩, hstarts.lineColumn_eq⟩

theorem fst_lineColumn_le {t : Text} {i j : Int} (hi : 0 ≤ i) (hij : i ≤ j) :
    (t.lineColumn i).1 ≤ (t.lineColumn j).1 := by
  have hplace : t.place i ≤ t.place j := by
    rw [place, place, if_neg (by omega), if_neg (by omega)]
    omega
  exact Nat.succ_le_succ ((List.take_sublist_take_left hplace).count_le '\n')

/-- Places come in the order of their offsets. -/
theorem strictMonoOn_toLex_lineColumn (t : Text) :
    StrictMonoOn (fun offset ↦ toLex (t.lineColumn offset)) (Set.Icc (0 : Int) t.length) := by
  intro i hi j hj hij
  have hoffset := (isPlace_lineColumn hi).2
  have hoffset' := (isPlace_lineColumn hj).2
  refine Prod.Lex.toLex_lt_toLex.2 ?_
  rcases Nat.lt_or_eq_of_le (fst_lineColumn_le (t := t) hi.1 hij.le) with hlt | heq
  · exact .inl hlt
  · -- on one line, the same is counted off before both
    rw [offsetAt, heq] at hoffset
    rw [offsetAt] at hoffset'
    exact .inr ⟨heq, by omega⟩

/-- **Lines and columns are inverted by counting off lines.**  There is one place in the text for
each offset, its end included.  The offset of a place is what the lines before it take up with
their newlines, and the columns before it.  Places come in the order of their offsets: by the line,
and by the column on one line. -/
theorem lineColumn_bijOn_strictMonoOn (t : Text) :
    Set.BijOn t.lineColumn (Set.Icc 0 t.length) {place | t.IsPlace place} ∧
    Set.InvOn t.offsetAt t.lineColumn (Set.Icc 0 t.length) {place | t.IsPlace place} ∧
    StrictMonoOn (fun offset ↦ toLex (t.lineColumn offset)) (Set.Icc 0 t.length) := by
  have hinv : Set.InvOn t.offsetAt t.lineColumn (Set.Icc 0 t.length) {place | t.IsPlace place} :=
    ⟨fun offset h ↦ (isPlace_lineColumn h).2, fun place h ↦ h.lineColumn_offsetAt.2⟩
  refine ⟨hinv.bijOn ?_ ?_, hinv, t.strictMonoOn_toLex_lineColumn⟩
  · exact fun offset h ↦ (isPlace_lineColumn h).1
  · exact fun place h ↦ h.lineColumn_offsetAt.1

/-- An empty line has one place, and so has the end of the text. -/
example : (List.range 7).map (fun n ↦ lineColumn "ab\n\nc\n".toList n)
    = [(1, 1), (1, 2), (1, 3), (2, 1), (3, 1), (3, 2), (4, 1)] := by decide

end Text
end TemplateAssist
