import Mathlib.Data.List.DropRight
import Mathlib.Data.List.TakeWhile
import Mathlib.Tactic.NthRewrite
import TemplateAssist.Text.Blank
import TemplateAssist.Text.WordChar

/-!
# Blanks around a text

What `Text.trim` takes away and what it keeps.

* `exists_blanks_trim` — a text is its trimmed form with blanks on either side;
* `trim_append_blanks` — blanks put around a text do not show in its trimmed form;
* `trim_word` — a word that stands first is what the trimmed text starts with.

Word characters are not blank (`isBlank_of_isWordChar`), so trimming never cuts into a word.
-/

set_option autoImplicit false

namespace TemplateAssist

/-! ## Blanks and word characters -/

/-- The code points of the blank characters, one by one. -/
def blankCodes : List Nat := blankRanges.flatMap fun (lo, hi) ↦ List.range' lo (hi + 1 - lo)

theorem toNat_mem_blankCodes {c : Char} (h : isBlank c = true) : c.toNat ∈ blankCodes := by
  rw [isBlank, CodeRanges.covers, List.any_eq_true] at h
  obtain ⟨⟨lo, hi⟩, hmem, hc⟩ := h
  rw [Bool.and_eq_true, decide_eq_true_eq, decide_eq_true_eq] at hc
  refine List.mem_flatMap.2 ⟨(lo, hi), hmem, ?_⟩
  rw [List.mem_range'_1]
  omega

theorem isBlank_of_isWordChar {c : Char} (h : isWordChar c = true) : isBlank c = false := by
  have hcodes : ∀ n ∈ blankCodes, isWordChar (Char.ofNat n) = false := by decide +kernel
  rw [Bool.eq_false_iff]
  intro hb
  have hw := hcodes c.toNat (toNat_mem_blankCodes hb)
  rw [Char.ofNat_toNat, h] at hw
  cases hw

theorem ne_of_isWordChar {c d : Char} (hc : isWordChar c = true) (hd : isWordChar d = false) :
    c ≠ d := by
  rintro rfl
  rw [hd] at hc
  cases hc

namespace Text

/-! ## One side -/

theorem trimLeft_append_of_blank {pre : Text} (t : Text) (h : ∀ c ∈ pre, isBlank c = true) :
    (pre ++ t).trimLeft = t.trimLeft :=
  List.dropWhile_append_of_pos h

theorem trimLeft_cons {c : Char} (t : Text) (h : isBlank c = false) :
    trimLeft (c :: t) = c :: t :=
  List.dropWhile_cons_of_neg (by simp [h])

/-- Trimming stops at a part that is not all blank. -/
theorem trimLeft_append {u : Text} (v : Text) (hu : u.trimLeft ≠ []) :
    (u ++ v).trimLeft = u.trimLeft ++ v := by
  have hnonempty : ¬ (u.dropWhile isBlank).isEmpty = true := fun h ↦ hu (List.isEmpty_iff.1 h)
  rw [trimLeft, List.dropWhile_append, if_neg hnonempty]
  rfl

theorem trimLeft_suffix (t : Text) : t.trimLeft <:+ t := List.dropWhile_suffix _

theorem trimLeft_eq_drop (t : Text) : t.trimLeft = t.drop (t.length - t.trimLeft.length) := by
  obtain ⟨pre, hpre⟩ := t.trimLeft_suffix
  have hlen : t.length - t.trimLeft.length = pre.length := by
    rw [← hpre, List.length_append, hpre]
    omega
  rw [hlen]
  nth_rewrite 2 [← hpre]
  rw [List.drop_left]

theorem trimRight_append_of_blank (t : Text) {post : Text} (h : ∀ c ∈ post, isBlank c = true) :
    (t ++ post).trimRight = t.trimRight := by
  rw [trimRight, beforeTrailing, List.reverse_append, List.dropWhile_append_of_pos]
  · rfl
  · exact fun c hc ↦ h c (List.mem_reverse.1 hc)

/-- Trimming stops at a part that has no blanks at its end. -/
theorem trimRight_append {u : Text} (v : Text) (hu : u.trimRight = u) :
    (u ++ v).trimRight = u ++ v.trimRight := by
  rw [trimRight, beforeTrailing, List.reverse_append, List.dropWhile_append]
  split
  · next hv =>
    have hnil : v.trimRight = [] := by
      rw [trimRight, beforeTrailing, List.isEmpty_iff.1 hv, List.reverse_nil]
    rw [hnil, List.append_nil]
    exact hu
  · rw [List.reverse_append, List.reverse_reverse]
    rfl

theorem trimRight_of_not_blank {t : Text} (h : ∀ c ∈ t, isBlank c = false) :
    t.trimRight = t := by
  rw [trimRight, beforeTrailing]
  cases hr : t.reverse with
  | nil => rw [List.reverse_eq_nil_iff.1 hr]; rfl
  | cons c rest =>
    have hc : isBlank c = false := h c (List.mem_reverse.1 (by rw [hr]; exact List.mem_cons_self))
    rw [List.dropWhile_cons_of_neg (by simp [hc]), ← hr, List.reverse_reverse]

/-- Trimming does not touch a text whose end has no blanks in it. -/
theorem trimRight_append_of_not_blank (u : Text) {v : Text} (hne : v ≠ [])
    (hv : ∀ c ∈ v, isBlank c = false) : (u ++ v).trimRight = u ++ v := by
  refine List.rdropWhile_eq_self_iff.2 fun hnil ↦ ?_
  rw [List.getLast_append_of_ne_nil hnil hne, hv _ (List.getLast_mem hne)]
  exact Bool.false_ne_true

theorem trimRight_prefix (t : Text) : t.trimRight <+: t :=
  ⟨t.trailing isBlank, beforeTrailing_append_trailing isBlank t⟩

theorem mem_trailing_blank {t : Text} {c : Char} (h : c ∈ t.trailing isBlank) :
    isBlank c = true :=
  List.mem_takeWhile_imp (List.mem_reverse.1 h)

theorem isBlank_of_head?_trimLeft {t : Text} {c : Char} (h : t.trimLeft.head? = some c) :
    isBlank c = false := by
  have hnot := List.head?_dropWhile_not isBlank t
  rw [show (t.dropWhile isBlank).head? = some c from h] at hnot
  exact hnot

theorem isBlank_of_getLast?_trimRight {t : Text} {c : Char} (h : t.trimRight.getLast? = some c) :
    isBlank c = false := by
  rw [trimRight, beforeTrailing, List.getLast?_reverse] at h
  exact isBlank_of_head?_trimLeft h

/-! ## Both sides -/

/-- A text is its trimmed form between blanks. -/
theorem exists_blanks_trim (t : Text) : ∃ pre post : Text, t = pre ++ (t.trim ++ post) ∧
    (∀ c ∈ pre, isBlank c = true) ∧ ∀ c ∈ post, isBlank c = true := by
  refine ⟨t.takeWhile isBlank, t.trimLeft.trailing isBlank, ?_, fun c hc ↦
    List.mem_takeWhile_imp hc, fun c hc ↦ mem_trailing_blank hc⟩
  rw [trim, trimRight, beforeTrailing_append_trailing, trimLeft, List.takeWhile_append_dropWhile]

theorem head?_trimLeft (t : Text) : t.trimLeft.head? = t.trim.head? := by
  have hsplit : t.trim ++ t.trimLeft.trailing isBlank = t.trimLeft :=
    beforeTrailing_append_trailing isBlank t.trimLeft
  cases htrim : t.trim with
  | cons c rest => rw [← hsplit, htrim]; rfl
  | nil =>
    rw [htrim, List.nil_append] at hsplit
    cases hleft : t.trimLeft with
    | nil => rfl
    | cons c rest =>
      have hnot : isBlank c = false := isBlank_of_head?_trimLeft (t := t) (by rw [hleft]; rfl)
      have hblank : isBlank c = true :=
        mem_trailing_blank (t := t.trimLeft) (by rw [hsplit, hleft]; exact List.mem_cons_self)
      rw [hnot] at hblank
      cases hblank

/-- A trimmed text starts with no blank. -/
theorem trimLeft_of_prefix_trim {t u : Text} (h : u <+: t.trim) : u.trimLeft = u := by
  cases u with
  | nil => rfl
  | cons c u =>
    obtain ⟨rest, hrest⟩ := h
    refine trimLeft_cons u (isBlank_of_head?_trimLeft (t := t) ?_)
    rw [head?_trimLeft, ← hrest]
    rfl

theorem trim_of_not_blank {t : Text} (h : ∀ c ∈ t, isBlank c = false) : t.trim = t := by
  cases t with
  | nil => rfl
  | cons c t => rw [trim, trimLeft_cons t (h c List.mem_cons_self), trimRight_of_not_blank h]

/-- Blanks around a text do not show in its trimmed form. -/
theorem trim_append_blanks {pre post : Text} (t : Text) (hpre : ∀ c ∈ pre, isBlank c = true)
    (hpost : ∀ c ∈ post, isBlank c = true) : (pre ++ (t ++ post)).trim = t.trim := by
  have hnil : post.trimLeft = [] := List.dropWhile_eq_nil_iff.2 hpost
  rw [trim, trimLeft_append_of_blank _ hpre, trimLeft, List.dropWhile_append]
  split
  · next ht =>
    rw [trim, trimLeft, List.isEmpty_iff.1 ht]
    show post.trimLeft.trimRight = _
    rw [hnil]
  · rw [trimRight_append_of_blank _ hpost]
    rfl

theorem trim_trim (t : Text) : t.trim.trim = t.trim := by
  obtain ⟨pre, post, ht, hpre, hpost⟩ := t.exists_blanks_trim
  rw [← trim_append_blanks t.trim hpre hpost, ← ht]

/-- Characters that are not blank survive trimming. -/
theorem mem_trim_iff {t : Text} {c : Char} (hc : isBlank c = false) : c ∈ t.trim ↔ c ∈ t := by
  obtain ⟨pre, post, ht, hpre, hpost⟩ := t.exists_blanks_trim
  constructor
  · intro h
    rw [ht]
    simp [h]
  · intro h
    rw [ht, List.mem_append, List.mem_append] at h
    rcases h with h | h | h
    · rw [hpre c h] at hc; cases hc
    · exact h
    · rw [hpost c h] at hc; cases hc

/-- A class of characters without blanks is not touched by trimming. -/
theorem filter_trim {p : Char → Bool} (t : Text) (hp : ∀ c, isBlank c = true → p c = false) :
    t.trim.filter p = t.filter p := by
  have hblank : ∀ u : Text, (∀ c ∈ u, isBlank c = true) → u.filter p = [] := fun u hu ↦
    List.filter_eq_nil_iff.2 fun c hc ↦ by rw [hp c (hu c hc)]; exact Bool.false_ne_true
  obtain ⟨pre, post, ht, hpre, hpost⟩ := t.exists_blanks_trim
  nth_rewrite 2 [ht]
  rw [List.filter_append, List.filter_append, hblank pre hpre, hblank post hpost,
    List.nil_append, List.append_nil]

/-- A word after a blank is what the trimmed text starts with. -/
theorem trim_word {w : Text} (rest : Text) (hne : w ≠ []) (hw : ∀ c ∈ w, isWordChar c = true) :
    trim (' ' :: (w ++ rest)) = w ++ rest.trimRight := by
  have hnb : ∀ c ∈ w, isBlank c = false := fun c hc ↦ isBlank_of_isWordChar (hw c hc)
  have hleft : trimLeft (' ' :: (w ++ rest)) = w ++ rest := by
    cases w with
    | nil => exact absurd rfl hne
    | cons c w =>
      rw [trimLeft, List.dropWhile_cons_of_pos (by decide)]
      exact trimLeft_cons _ (hnb c List.mem_cons_self)
  rw [trim, hleft, trimRight_append _ (trimRight_of_not_blank hnb)]

end Text
end TemplateAssist
