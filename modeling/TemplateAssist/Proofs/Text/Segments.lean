import Mathlib.Data.List.TakeWhile
import TemplateAssist.Text.Basic

/-!
# Cutting at a separator and joining again

Texts are cut into pieces by `List.splitOn` and joined by `List.intercalate`.  Joining undoes
cutting for every text (`List.intercalate_splitOn`), and cutting undoes joining as long as no piece
holds the separator (`List.splitOn_intercalate`).  Here are the characters of the pieces:

* `not_mem_of_mem_splitOn` — none of them is the separator;
* `exists_mem_splitOn_iff` — all others of the text are there.

`Text.upTo` gives the first piece (`upTo_intercalate`).
-/

set_option autoImplicit false

namespace TemplateAssist
namespace Text

variable {sep : Char}

theorem intercalate_append {us vs : List Text} (hu : us ≠ []) (hv : vs ≠ []) :
    [sep].intercalate (us ++ vs) = [sep].intercalate us ++ sep :: [sep].intercalate vs := by
  induction us with
  | nil => exact absurd rfl hu
  | cons u us ih =>
    by_cases hus : us = []
    · simp [hus, List.intercalate_cons_of_ne_nil hv]
    · rw [List.cons_append, List.intercalate_cons_of_ne_nil (by simp [hus]), ih hus,
        List.intercalate_cons_of_ne_nil hus, List.append_assoc _ _ (sep :: _)]

theorem ne_of_mem_upTo {t : Text} {c : Char} (h : c ∈ t.upTo sep) : c ≠ sep := by
  simpa using List.mem_takeWhile_imp h

theorem upTo_of_not_mem {t : Text} (h : sep ∉ t) : t.upTo sep = t := by
  refine List.takeWhile_eq_self_iff.2 fun c hc ↦ decide_eq_true ?_
  rintro rfl
  exact h hc

/-- What stands before the first separator is the first piece. -/
theorem upTo_intercalate {piece : Text} (pieces : List Text) (h : sep ∉ piece) :
    upTo sep ([sep].intercalate (piece :: pieces)) = piece := by
  cases pieces with
  | nil => simpa using upTo_of_not_mem h
  | cons next pieces =>
    have hpiece : ∀ c ∈ piece, decide (c ≠ sep) = true := by
      intro c hc
      refine decide_eq_true ?_
      rintro rfl
      exact h hc
    rw [List.intercalate_cons_cons, List.append_assoc, upTo, List.takeWhile_append_of_pos hpiece,
      List.singleton_append, List.takeWhile_cons_of_neg (by simp), List.append_nil]

theorem not_mem_of_mem_splitOn {t piece : Text} (h : piece ∈ t.splitOn sep) : sep ∉ piece := by
  induction t generalizing piece with
  | nil =>
    rw [List.mem_singleton.1 h]
    exact List.not_mem_nil
  | cons c rest ih =>
    rw [List.splitOn_cons_eq_if_modifyHead] at h
    by_cases hc : c = sep
    · rw [if_pos (beq_iff_eq.2 hc), List.mem_cons] at h
      rcases h with rfl | h
      · exact List.not_mem_nil
      · exact ih h
    · rw [if_neg (by simpa using hc)] at h
      obtain ⟨first, pieces, hs⟩ := List.exists_cons_of_ne_nil (List.splitOn_ne_nil sep rest)
      rw [hs] at h ih
      rcases List.mem_cons.1 h with rfl | h
      · have hfirst : sep ∉ first := ih List.mem_cons_self
        simp [hfirst, Ne.symm hc]
      · exact ih (List.mem_cons_of_mem first h)

theorem mem_intercalate {pieces : List Text} {c : Char} (hc : c ≠ sep) :
    c ∈ [sep].intercalate pieces ↔ ∃ piece ∈ pieces, c ∈ piece := by
  induction pieces with
  | nil => simp
  | cons piece pieces ih =>
    by_cases hpieces : pieces = []
    · simp [hpieces]
    · simp [List.intercalate_cons_of_ne_nil hpieces, hc, ih]

/-- Every character other than the separator is in one of the pieces. -/
theorem exists_mem_splitOn_iff {t : Text} {c : Char} (hc : c ≠ sep) :
    (∃ piece ∈ t.splitOn sep, c ∈ piece) ↔ c ∈ t := by
  rw [← mem_intercalate hc, List.intercalate_splitOn]

end Text
end TemplateAssist
