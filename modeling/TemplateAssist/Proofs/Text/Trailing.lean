import Mathlib.Data.List.DropRight
import TemplateAssist.Cursor.Line
import TemplateAssist.Proofs.Text.Occurrence

/-!
# Runs at the end of a text

`Text.trailing` and `Text.beforeTrailing` cut a text before the longest run of characters of one
class at its end.  What is written after a text either goes on with that run, as a whole, or ends
it:

* `trailing_append`, `beforeTrailing_append` — characters of the class are added to the run;
* `trailing_concat`, `beforeTrailing_concat` — any other character leaves no run.

The line of a position is such a run (`lineBefore_natCast`), so that a stretch up to the position is
on the line if no newline is in it (`lineStart_le_iff`).
-/

set_option autoImplicit false

namespace TemplateAssist
namespace Text

variable {p : Char → Bool}

theorem of_mem_trailing {t : Text} {c : Char} (h : c ∈ t.trailing p) : p c = true :=
  List.mem_rtakeWhile_imp h

theorem trailing_append (u : Text) {v : Text} (hv : ∀ c ∈ v, p c = true) :
    trailing p (u ++ v) = trailing p u ++ v := by
  have hreverse : ∀ c ∈ v.reverse, p c = true := fun c hc ↦ hv c (List.mem_reverse.1 hc)
  rw [trailing, List.reverse_append, List.takeWhile_append_of_pos hreverse, List.reverse_append,
    List.reverse_reverse]
  rfl

/-- What has no separator in it is added to what comes after the last one. -/
theorem trailing_append_of_not_mem (u : Text) {v : Text} {sep : Char} (h : sep ∉ v) :
    trailing (· ≠ sep) (u ++ v) = trailing (· ≠ sep) u ++ v := by
  refine trailing_append u fun c hc ↦ decide_eq_true ?_
  rintro rfl
  exact h hc

theorem beforeTrailing_append (u : Text) {v : Text} (hv : ∀ c ∈ v, p c = true) :
    beforeTrailing p (u ++ v) = beforeTrailing p u := by
  have hreverse : ∀ c ∈ v.reverse, p c = true := fun c hc ↦ hv c (List.mem_reverse.1 hc)
  rw [beforeTrailing, List.reverse_append, List.dropWhile_append_of_pos hreverse]
  rfl

theorem trailing_concat (u : Text) {c : Char} (hc : p c = false) : trailing p (u ++ [c]) = [] :=
  List.rtakeWhile_concat_neg p u c (by rw [hc]; exact Bool.false_ne_true)

theorem beforeTrailing_concat (u : Text) {c : Char} (hc : p c = false) :
    beforeTrailing p (u ++ [c]) = u ++ [c] :=
  List.rdropWhile_concat_neg p u c (by rw [hc]; exact Bool.false_ne_true)

/-- What stands before a run is empty, or ends with a character of another class. -/
theorem beforeTrailing_eq_nil_or_concat (p : Char → Bool) (t : Text) :
    t.beforeTrailing p = [] ∨ ∃ u c, t.beforeTrailing p = u ++ [c] ∧ p c = false := by
  by_cases hnil : t.beforeTrailing p = []
  · exact .inl hnil
  · have hlast := List.rdropWhile_last_not p t hnil
    exact .inr ⟨_, _, (List.dropLast_append_getLast hnil).symm, Bool.eq_false_iff.2 hlast⟩

/-- What stands before a run does not end with a character of the class. -/
theorem getLast?_beforeTrailing_ne (t : Text) {c : Char} (hc : p c = true) :
    (t.beforeTrailing p).getLast? ≠ some c := by
  rcases beforeTrailing_eq_nil_or_concat p t with hnil | ⟨u, d, heq, hd⟩
  · simp [hnil]
  · rw [heq, List.getLast?_concat]
    rintro ⟨rfl⟩
    rw [hc] at hd
    cases hd

theorem drop_trailing (p : Char → Bool) (t : Text) :
    t.drop (t.length - (t.trailing p).length) = t.trailing p :=
  (List.suffix_iff_eq_drop.1 (List.rtakeWhile_suffix p t)).symm

/-- A run is the same in what is left of a text, as long as nothing of the run is left out. -/
theorem trailing_drop {t : Text} {n : Nat} (h : n ≤ (t.beforeTrailing p).length) :
    trailing p (t.drop n) = trailing p t := by
  have hcut := beforeTrailing_append_trailing p t
  have hrest : trailing p ((t.beforeTrailing p).drop n) = [] := by
    rcases beforeTrailing_eq_nil_or_concat p t with hnil | ⟨u, c, heq, hc⟩
    · rw [hnil, List.drop_nil]
      rfl
    · rw [heq, List.length_append, List.length_singleton] at h
      rw [heq]
      by_cases hn : n ≤ u.length
      · rw [List.drop_append_of_le_length hn, trailing_concat _ hc]
      · rw [List.drop_eq_nil_of_le (by rw [List.length_append, List.length_singleton]; omega)]
        rfl
  nth_rewrite 1 [← hcut]
  rw [List.drop_append_of_le_length h, trailing_append _ fun c hc ↦ of_mem_trailing hc, hrest,
    List.nil_append]

/-- A stretch at the end of a text belongs to its run exactly when it is of the class. -/
theorem length_beforeTrailing_le_iff {t : Text} {n : Nat} :
    (t.beforeTrailing p).length ≤ n ↔ ∀ c ∈ t.drop n, p c = true := by
  have hcut := beforeTrailing_append_trailing p t
  constructor
  · intro hle c hc
    rw [← hcut, List.drop_append, List.drop_eq_nil_of_le hle, List.nil_append] at hc
    exact of_mem_trailing (List.mem_of_mem_drop hc)
  · intro h
    rcases beforeTrailing_eq_nil_or_concat p t with hnil | ⟨u, c, heq, hc⟩
    · simp [hnil]
    · by_contra hlt
      rw [heq, List.length_append, List.length_singleton] at hlt
      have hmem : c ∈ t.drop n := by
        rw [← hcut, heq, List.append_assoc, List.drop_append_of_le_length (by omega)]
        simp
      rw [h c hmem] at hc
      cases hc

/-- A run of a class is found in the run of a larger one. -/
theorem trailing_trailing {q : Char → Bool} (t : Text) (h : ∀ c, p c = true → q c = true) :
    trailing p (trailing q t) = trailing p t := by
  have hcut := beforeTrailing_append_trailing q t
  have hstart : t.length - (t.trailing q).length ≤ (t.beforeTrailing p).length := by
    have hlength := congrArg List.length hcut
    rw [List.length_append] at hlength
    have hle : (t.beforeTrailing q).length ≤ (t.beforeTrailing p).length :=
      length_beforeTrailing_le_iff.2 fun c hc ↦
        h c (length_beforeTrailing_le_iff.1 le_rfl c hc)
    omega
  rw [← drop_trailing q t, trailing_drop hstart]

/-- A stretch with characters of another class before it, and perhaps after it, is the run at the
end exactly when it is of the class and reaches up to the end. -/
theorem trailing_eq_iff {t sep w post : Text} (h : sep ++ (w ++ post) <:+ t) (hne : sep ≠ [])
    (hsep : ∀ c ∈ sep, p c = false) (hpost : ∀ c ∈ post, p c = false) :
    t.trailing p = w ↔ (∀ c ∈ w, p c = true) ∧ w <:+ t := by
  constructor
  · rintro rfl
    exact ⟨fun c ↦ of_mem_trailing, List.rtakeWhile_suffix p t⟩
  · rintro ⟨hw, hsuffix⟩
    obtain ⟨u, rfl⟩ := h
    rcases List.eq_nil_or_concat' post with rfl | ⟨v, c, rfl⟩
    · obtain ⟨v, c, rfl⟩ := (List.eq_nil_or_concat' sep).resolve_left hne
      rw [List.append_nil, ← List.append_assoc, ← List.append_assoc, trailing_append _ hw,
        trailing_concat _ (hsep c (by simp)), List.nil_append]
    · have hc : p c = false := hpost c (by simp)
      have hend : u ++ (sep ++ (w ++ (v ++ [c]))) = u ++ sep ++ w ++ v ++ [c] := by simp
      rw [hend] at hsuffix ⊢
      rw [trailing_concat _ hc]
      rcases List.suffix_concat_iff.1 hsuffix with rfl | ⟨x, rfl, -⟩
      · rfl
      · rw [hw c (by simp)] at hc
        cases hc

/-- There is no run of a class after a stretch that does not reach up to the end, if what follows it
is of other classes. -/
theorem trailing_eq_nil {t w post : Text} (h : w ++ post <:+ t) (hpost : ∀ c ∈ post, p c = false)
    (hw : ¬w <:+ t) : t.trailing p = [] := by
  obtain ⟨u, rfl⟩ := h
  rcases List.eq_nil_or_concat' post with rfl | ⟨v, c, rfl⟩
  · rw [List.append_nil] at hw
    exact absurd (List.suffix_append u w) hw
  · rw [← List.append_assoc, ← List.append_assoc]
    exact trailing_concat _ (hpost c (by simp))

/-! ## The line of a position -/

theorem lineBefore_natCast {t : Text} {pos : Nat} (h : pos ≤ t.length) :
    t.lineBefore pos = (pos - (trailing (· ≠ '\n') (t.take pos)).length,
      trailing (· ≠ '\n') (t.take pos)) := by
  rw [lineBefore, place_natCast, Nat.min_eq_left h, List.length_take_of_le h]

theorem start_add_length_lineBefore {t : Text} {pos : Nat} (h : pos ≤ t.length) :
    (t.lineBefore pos).1 + (t.lineBefore pos).2.length = pos := by
  have hle := (List.rtakeWhile_suffix (· ≠ '\n') (t.take pos)).length_le
  rw [List.length_take_of_le h] at hle
  rw [lineBefore_natCast h]
  exact Nat.sub_add_cancel hle

theorem lineStart_eq {t : Text} {pos : Nat} (h : pos ≤ t.length) :
    (t.lineBefore pos).1 = (beforeTrailing (· ≠ '\n') (t.take pos)).length := by
  have hlength := congrArg List.length (beforeTrailing_append_trailing (· ≠ '\n') (t.take pos))
  rw [List.length_append, List.length_take_of_le h] at hlength
  rw [lineBefore_natCast h]
  exact (Nat.eq_sub_of_add_eq hlength).symm

/-- A stretch up to a position is on its line exactly when it has no newline in it. -/
theorem lineStart_le_iff {t : Text} {start pos : Nat} (h : pos ≤ t.length) :
    (t.lineBefore pos).1 ≤ start ↔ '\n' ∉ t.slice start pos := by
  rw [lineStart_eq h, length_beforeTrailing_le_iff, slice]
  simp only [decide_eq_true_eq]
  exact ⟨fun hall hmem ↦ hall _ hmem rfl, fun hnot c hc heq ↦ hnot (heq ▸ hc)⟩

theorem take_lineStart {t : Text} {pos : Nat} (h : pos ≤ t.length) :
    t.take (t.lineBefore pos).1 = beforeTrailing (· ≠ '\n') (t.take pos) := by
  have hprefix : beforeTrailing (· ≠ '\n') (t.take pos) <+: t :=
    (List.rdropWhile_prefix _ _).trans (List.take_prefix pos t)
  rw [lineStart_eq h]
  exact (List.prefix_iff_eq_take.1 hprefix).symm

/-- The line stands in the text from its start on. -/
theorem hasAt_lineBefore {t : Text} {pos : Nat} (h : pos ≤ t.length) :
    t.HasAt (t.lineBefore pos).1 (t.lineBefore pos).2 := by
  have hcut := beforeTrailing_append_trailing (· ≠ '\n') (t.take pos)
  refine ⟨beforeTrailing (· ≠ '\n') (t.take pos), t.drop pos, ?_, ?_⟩
  · rw [lineBefore_natCast h, ← List.append_assoc, hcut, List.take_append_drop]
  · have hlength := congrArg List.length hcut
    rw [List.length_append, List.length_take_of_le h] at hlength
    rw [lineBefore_natCast h]
    exact Nat.eq_sub_of_add_eq hlength

end Text
end TemplateAssist
