import TemplateAssist.Proofs.Lint.Marks

/-!
# Which mixed delimiters are found

Each pattern is searched from left to right, and a search goes on after the end of a match.  So
something that a pattern describes is found, unless a match of the same pattern starts before it
and reaches over its start (`mem_spans_or_overlapped`).  What is left is to say when this happens.

* For the two patterns with blanks it never does: a match does not hold the first character of
  another one.
* The other two patterns describe two words each.  In `{#%#}` and in `{%#%}` the two words share a
  sign, and the second word is passed over (`Shares`).  There is no other case (`OccursAt.overlap`).

Together, `mem_mixedSpans_iff` says what is found.  No two patterns match at the same place
(`leading?`), so in the sorted list of all matches each place comes once (`pairwise_mixedSpans`).
-/

set_option autoImplicit false

namespace TemplateAssist
namespace MixedPattern

variable {p q : MixedPattern} {t : Text} {a b : Span Nat}

/-! ## Occurrences -/

/-- Something that the pattern describes stands in the text at this span. -/
def OccursAt (p : MixedPattern) (t : Text) (span : Span Nat) : Prop :=
  ∃ w, p.Matches w ∧ span.Covers t w

theorem OccursAt.start_lt_stop (h : p.OccursAt t a) : a.start < a.stop := by
  obtain ⟨w, hw, hcovers⟩ := h
  exact hcovers.start_lt_stop (ne_nil_of_matches hw)

theorem OccursAt.match?_drop (h : p.OccursAt t a) :
    p.match? (t.drop a.start) = some (a.stop - a.start) := by
  obtain ⟨w, hw, hcovers⟩ := h
  obtain ⟨after, hafter⟩ := hcovers.hasAt.exists_drop_eq
  refine match?_eq_some_iff.2 ⟨w, after, hw, hafter, ?_⟩
  rw [hcovers.stop_eq, Nat.add_sub_cancel_left]

/-- The one pattern that can match at the start of a text. -/
def leading? : Text → Option MixedPattern
  | '{' :: '{' :: _ => some expressionThenPercent
  | '{' :: '#' :: _ => some commentPercent
  | '{' :: '%' :: _ => some statementHash
  | '%' :: '#' :: _ => some commentPercent
  | '%' :: _ => some percentThenExpression
  | '#' :: _ => some statementHash
  | _ => none

theorem leading?_append {w : Text} (h : p.Matches w) (rest : Text) :
    leading? (w ++ rest) = some p := by
  cases p with
  | expressionThenPercent => obtain ⟨blanks, -, rfl⟩ := h; rfl
  | percentThenExpression =>
    obtain ⟨blanks, hblanks, rfl⟩ := h
    cases blanks with
    | nil => rfl
    | cons c blanks =>
      have hc : c ≠ '#' := by
        rintro rfl
        exact absurd (hblanks _ List.mem_cons_self) (by decide)
      simp [leading?, hc]
  | commentPercent => rcases h with rfl | rfl <;> rfl
  | statementHash => rcases h with rfl | rfl <;> rfl

theorem OccursAt.leading? (h : p.OccursAt t a) : leading? (t.drop a.start) = some p := by
  obtain ⟨w, hw, hcovers⟩ := h
  obtain ⟨after, hafter⟩ := hcovers.hasAt.exists_drop_eq
  rw [hafter, leading?_append hw]

/-- At each place there is at most one occurrence. -/
theorem OccursAt.eq_of_start_eq (ha : p.OccursAt t a) (hb : q.OccursAt t b)
    (h : a.start = b.start) : p = q ∧ a = b := by
  have hp := ha.leading?
  rw [h, hb.leading?] at hp
  obtain rfl := Option.some.inj hp
  have hlength := ha.match?_drop
  rw [h, hb.match?_drop, Option.some_inj] at hlength
  have hlta := ha.start_lt_stop
  have hltb := hb.start_lt_stop
  obtain ⟨start, stop⟩ := a
  obtain ⟨start', stop'⟩ := b
  simp only [Span.mk.injEq, true_and] at *
  omega

/-! ## One search -/

section

variable {offset skip : Nat} {rest : Text}

theorem le_start_of_mem_matchesFrom :
    ∀ s ∈ p.matchesFrom offset skip rest, offset + skip ≤ s.start := by
  fun_induction matchesFrom p offset skip rest with
  | case1 => simp
  | case2 offset c rest n ih =>
    intro s hs
    have := ih s hs
    omega
  | case3 offset c rest n _ ih =>
    intro s hs
    rcases List.mem_cons.1 hs with rfl | hs
    · exact Nat.le_refl _
    · have := ih s hs
      omega
  | case4 offset c rest _ ih =>
    intro s hs
    have := ih s hs
    omega

/-- A search goes on after the end of a match. -/
theorem pairwise_matchesFrom :
    (p.matchesFrom offset skip rest).Pairwise fun a b ↦ a.stop ≤ b.start := by
  fun_induction matchesFrom p offset skip rest with
  | case1 => exact .nil
  | case2 _ _ _ _ ih => exact ih
  | case3 offset c rest n _ ih =>
    refine .cons (fun s hs ↦ ?_) ih
    have := le_start_of_mem_matchesFrom s hs
    show offset + n ≤ s.start
    omega
  | case4 _ _ _ _ ih => exact ih

/-- **A search misses nothing but what a match reaches over.** -/
theorem mem_matchesFrom_or_overlapped (hrest : t.drop offset = rest) (h : p.OccursAt t a)
    (hle : offset + skip ≤ a.start) : a ∈ p.matchesFrom offset skip rest ∨
      ∃ s ∈ p.matchesFrom offset skip rest, s.start < a.start ∧ a.start < s.stop := by
  have hlt := h.start_lt_stop
  fun_induction matchesFrom p offset skip rest with
  | case1 offset =>
    obtain ⟨w, -, hcovers⟩ := h
    have hstop := hcovers.stop_le
    have hend := List.drop_eq_nil_iff.1 hrest
    omega
  | case2 offset c rest n ih =>
    exact ih (by rw [← List.drop_drop, hrest]; rfl) (by omega)
  | case3 offset c rest n hn ih =>
    have hhere := h.match?_drop
    by_cases hstart : a.start = offset
    · rw [hstart, hrest, hn, Option.some_inj] at hhere
      refine .inl (List.mem_cons.2 (.inl ?_))
      obtain ⟨start, stop⟩ := a
      simp only [Span.mk.injEq] at *
      omega
    · have hafter : offset < a.start := by omega
      by_cases hover : a.start < offset + n
      · exact .inr ⟨_, List.mem_cons_self, hafter, hover⟩
      · obtain hmem | ⟨s, hs, hover⟩ := ih (by rw [← List.drop_drop, hrest]; rfl) (by omega)
        · exact .inl (List.mem_cons_of_mem _ hmem)
        · exact .inr ⟨s, List.mem_cons_of_mem _ hs, hover⟩
  | case4 offset c rest hnone ih =>
    have hhere := h.match?_drop
    refine ih (by rw [← List.drop_drop, hrest]; rfl) ?_
    by_contra hnot
    obtain rfl : a.start = offset := by omega
    rw [hrest, hnone] at hhere
    cases hhere

end

theorem occursAt_of_mem_spans (h : a ∈ p.spans t) : p.OccursAt t a :=
  covers_of_mem_matchesFrom t.hasAt_self a h

theorem mem_spans_or_overlapped (h : p.OccursAt t a) :
    a ∈ p.spans t ∨ ∃ s ∈ p.spans t, s.start < a.start ∧ a.start < s.stop :=
  mem_matchesFrom_or_overlapped rfl h (Nat.zero_le _)

theorem pairwise_spans (p : MixedPattern) (t : Text) :
    (p.spans t).Pairwise fun a b ↦ a.stop ≤ b.start :=
  pairwise_matchesFrom

theorem stop_le_of_mem_spans (ha : a ∈ p.spans t) (hb : b ∈ p.spans t)
    (hlt : a.start < b.start) : a.stop ≤ b.start := by
  have hpairwise := p.pairwise_spans t
  obtain ⟨i, hi, rfl⟩ := List.getElem_of_mem ha
  obtain ⟨j, hj, rfl⟩ := List.getElem_of_mem hb
  rcases Nat.lt_trichotomy i j with hij | rfl | hji
  · exact List.pairwise_iff_getElem.1 hpairwise i j hi hj hij
  · omega
  · have hle := List.pairwise_iff_getElem.1 hpairwise j i hj hi hji
    have := (occursAt_of_mem_spans hb).start_lt_stop
    omega

/-! ## Words that share a sign -/

/-- The words that have a comment delimiter and a statement delimiter in one. -/
def contaminations : List Text :=
  [['{', '#', '%'], ['%', '#', '}'], ['{', '%', '#'], ['#', '%', '}']]

theorem exists_matches_of_mem_contaminations {w : Text} (h : w ∈ contaminations) :
    ∃ p : MixedPattern, p.Matches w ∧ w.length = 3 := by
  simp only [contaminations, List.mem_cons, List.not_mem_nil, or_false] at h
  rcases h with rfl | rfl | rfl | rfl
  · exact ⟨commentPercent, .inl rfl, rfl⟩
  · exact ⟨commentPercent, .inr rfl, rfl⟩
  · exact ⟨statementHash, .inl rfl, rfl⟩
  · exact ⟨statementHash, .inr rfl, rfl⟩

/-- Two such words with one sign for both. -/
def sharing : List Text := [['{', '#', '%', '#', '}'], ['{', '%', '#', '%', '}']]

/-- What starts at offset `k` shares its first sign with a word that ends there. -/
def Shares (t : Text) (k : Nat) : Prop := ∃ i, k = i + 2 ∧ ∃ w ∈ sharing, t.HasAt i w

/-- The two words of a pattern overlap in their common sign only. -/
theorem shares_of_signs {x y : Char} {w w' : Text} {i j : Nat}
    (hsigns : ['{', x, y, x, '}'] ∈ sharing) (hw : w = ['{', x, y] ∨ w = [y, x, '}'])
    (hw' : w' = ['{', x, y] ∨ w' = [y, x, '}']) (hi : t.HasAt i w) (hj : t.HasAt j w')
    (hij : i < j) (hlt : j < i + w.length) : Shares t j := by
  obtain ⟨hxo, hxy, hyo, hyc⟩ : x ≠ '{' ∧ x ≠ y ∧ y ≠ '{' ∧ y ≠ '}' := by
    simp only [sharing, List.mem_cons, List.cons.injEq, List.not_mem_nil, or_false, true_and,
      and_true] at hsigns
    rcases hsigns with ⟨rfl, rfl, -⟩ | ⟨rfl, rfl, -⟩ <;> decide
  have hlength : w.length = 3 := by rcases hw with rfl | rfl <;> rfl
  obtain rfl | rfl : j = i + 1 ∨ j = i + 2 := by omega
  · have hsign : t[i + 1]? = some x := by
      rcases hw with rfl | rfl <;> exact hi.tail.getElem?_eq
    rcases hw' with rfl | rfl
    · exact absurd (Option.some.inj (hsign.symm.trans hj.getElem?_eq)) hxo
    · exact absurd (Option.some.inj (hsign.symm.trans hj.getElem?_eq)) hxy
  · rcases hw with rfl | rfl
    · have hsign : t[i + 2]? = some y := hi.tail.tail.getElem?_eq
      rcases hw' with rfl | rfl
      · exact absurd (Option.some.inj (hsign.symm.trans hj.getElem?_eq)) hyo
      · have hopening : t.HasAt i ['{', x] := Text.HasAt.left (u := ['{', x]) (v := [y]) hi
        exact ⟨i, rfl, _, hsigns, hopening.append hj⟩
    · have hsign : t[i + 2]? = some '}' := hi.tail.tail.getElem?_eq
      rcases hw' with rfl | rfl
      · exact absurd (Option.some.inj (hsign.symm.trans hj.getElem?_eq)) (by decide)
      · exact absurd (Option.some.inj (hj.getElem?_eq.symm.trans hsign)) hyc

/-- **Occurrences of one pattern overlap only where two words share a sign.** -/
theorem OccursAt.overlap (ha : p.OccursAt t a) (hb : p.OccursAt t b) (hlt : a.start < b.start)
    (hover : b.start < a.stop) : Shares t b.start := by
  obtain ⟨w, hw, ha⟩ := ha
  obtain ⟨w', hw', hb⟩ := hb
  rw [ha.stop_eq] at hover
  cases p with
  | expressionThenPercent =>
    -- no opening brace comes after the first two characters of a match
    obtain ⟨blanks, hblanks, rfl⟩ := hw
    obtain ⟨blanks', -, rfl⟩ := hw'
    have hfirst : t[b.start]? = some '{' := hb.hasAt.getElem?_eq
    have hsecond : t[b.start + 1]? = some '{' := hb.hasAt.tail.getElem?_eq
    have hmem : '{' ∈ (['{', '{'] ++ (blanks ++ ['%'])).drop 2 := by
      by_cases htwo : a.start + 2 ≤ b.start
      · exact ha.hasAt.mem_drop hfirst htwo hover
      · refine ha.hasAt.mem_drop hsecond (by omega) ?_
        simp only [List.length_append, List.length_cons, List.length_nil]
        omega
    have hblank : '{' ∈ blanks := by simpa using hmem
    exact absurd (hblanks _ hblank) (by decide)
  | percentThenExpression =>
    obtain ⟨blanks, hblanks, rfl⟩ := hw
    obtain ⟨blanks', -, rfl⟩ := hw'
    have hfirst : t[b.start]? = some '%' := hb.hasAt.getElem?_eq
    have hmem : '%' ∈ (['%'] ++ (blanks ++ ['}', '}'])).drop 1 :=
      ha.hasAt.mem_drop hfirst (by omega) hover
    have hblank : '%' ∈ blanks := by simpa using hmem
    exact absurd (hblanks _ hblank) (by decide)
  | commentPercent =>
    exact shares_of_signs (x := '#') (y := '%') (by decide) hw hw' ha.hasAt hb.hasAt hlt hover
  | statementHash =>
    exact shares_of_signs (x := '%') (y := '#') (by decide) hw hw' ha.hasAt hb.hasAt hlt hover

/-- Where a sign is shared, one pattern describes both words. -/
theorem Shares.exists_occursAt {k : Nat} (h : Shares t k) :
    ∃ p ∈ [commentPercent, statementHash], ∃ i, k = i + 2 ∧ t[i]? = some '{' ∧
      OccursAt p t ⟨i, i + 3⟩ ∧ OccursAt p t ⟨k, k + 3⟩ := by
  obtain ⟨i, rfl, w, hw, hat⟩ := h
  simp only [sharing, List.mem_cons, List.not_mem_nil, or_false] at hw
  rcases hw with rfl | rfl
  · have hfirst : t.HasAt i ['{', '#', '%'] := Text.HasAt.left (v := ['#', '}']) hat
    exact ⟨commentPercent, by decide, i, rfl, hat.getElem?_eq, ⟨_, .inl rfl, hfirst, rfl⟩,
      ⟨_, .inr rfl, hat.tail.tail, rfl⟩⟩
  · have hfirst : t.HasAt i ['{', '%', '#'] := Text.HasAt.left (v := ['%', '}']) hat
    exact ⟨statementHash, by decide, i, rfl, hat.getElem?_eq, ⟨_, .inl rfl, hfirst, rfl⟩,
      ⟨_, .inr rfl, hat.tail.tail, rfl⟩⟩

/-- What starts with a brace shares no sign. -/
theorem not_shares_of_brace {k : Nat} (h : t[k]? = some '{') : ¬ Shares t k := by
  rintro ⟨i, rfl, w, hw, hat⟩
  simp only [sharing, List.mem_cons, List.not_mem_nil, or_false] at hw
  rcases hw with rfl | rfl
  · exact absurd (Option.some.inj (h.symm.trans hat.tail.tail.getElem?_eq)) (by decide)
  · exact absurd (Option.some.inj (h.symm.trans hat.tail.tail.getElem?_eq)) (by decide)

/-- **What a search finds**: all that its pattern describes, less what shares its first sign. -/
theorem mem_spans_iff : a ∈ p.spans t ↔ p.OccursAt t a ∧ ¬ Shares t a.start := by
  have hmem : ∀ {b}, p.OccursAt t b → ¬ Shares t b.start → b ∈ p.spans t := by
    intro b hb hnot
    obtain hmem | ⟨s, hs, hlt, hover⟩ := mem_spans_or_overlapped hb
    · exact hmem
    · exact absurd ((occursAt_of_mem_spans hs).overlap hb hlt hover) hnot
  refine ⟨fun ha ↦ ⟨occursAt_of_mem_spans ha, fun hshares ↦ ?_⟩, fun ⟨ha, hnot⟩ ↦ hmem ha hnot⟩
  obtain ⟨q, -, i, hi, hbrace, hfirst, hsecond⟩ := hshares.exists_occursAt
  obtain ⟨rfl, -⟩ := (occursAt_of_mem_spans ha).eq_of_start_eq hsecond rfl
  -- nothing reaches over the brace of the first word, so this word is found and reaches over `a`
  have hfound : ⟨i, i + 3⟩ ∈ p.spans t := hmem hfirst (not_shares_of_brace hbrace)
  have hle : i + 3 ≤ a.start := stop_le_of_mem_spans hfound ha (show i < a.start by omega)
  omega

end MixedPattern

/-! ## All patterns -/

namespace Span

theorem before_iff {a b : Span Nat} :
    a.before b = true ↔ a.start < b.start ∨ a.start = b.start ∧ a.stop ≤ b.stop := by
  simp [before]

theorem before_trans (a b c : Span Nat) (hab : a.before b = true) (hbc : b.before c = true) :
    a.before c = true := by
  rw [before_iff] at *
  omega

theorem before_total (a b : Span Nat) : (a.before b || b.before a) = true := by
  rw [Bool.or_eq_true, before_iff, before_iff]
  omega

end Span

namespace Text

open MixedPattern

variable {t : Text} {a : Span Nat}

theorem mem_mixedSpans_iff :
    a ∈ t.mixedSpans ↔ (∃ p : MixedPattern, p.OccursAt t a) ∧ ¬ Shares t a.start := by
  rw [mixedSpans, List.mem_mergeSort, List.mem_flatMap]
  constructor
  · rintro ⟨p, -, ha⟩
    obtain ⟨hoccurs, hnot⟩ := mem_spans_iff.1 ha
    exact ⟨⟨p, hoccurs⟩, hnot⟩
  · rintro ⟨⟨p, hoccurs⟩, hnot⟩
    refine ⟨p, ?_, mem_spans_iff.2 ⟨hoccurs, hnot⟩⟩
    cases p <;> decide

/-- **Each place comes once**, in the order of the text. -/
theorem pairwise_mixedSpans (t : Text) :
    t.mixedSpans.Pairwise fun a b ↦ a.start < b.start := by
  have hdistinct : (all.flatMap (·.spans t)).Pairwise fun a b ↦ a.start ≠ b.start := by
    refine List.pairwise_flatMap.2 ⟨fun p _ ↦ ?_, ?_⟩
    · refine (p.pairwise_spans t).imp_of_mem fun {a b} ha _ hle ↦ ?_
      have := (occursAt_of_mem_spans ha).start_lt_stop
      omega
    · have hall : all.Nodup := by decide
      refine hall.imp fun {p q} hne a ha b hb heq ↦ hne ?_
      exact ((occursAt_of_mem_spans ha).eq_of_start_eq (occursAt_of_mem_spans hb) heq).1
  have hsorted : t.mixedSpans.Pairwise fun a b ↦ a.before b = true :=
    List.pairwise_mergeSort Span.before_trans Span.before_total _
  have hperm : t.mixedSpans.Perm (all.flatMap (·.spans t)) := List.mergeSort_perm _ _
  have hstarts : t.mixedSpans.Pairwise fun a b ↦ a.start ≠ b.start :=
    (hperm.pairwise_iff fun h ↦ h.symm).2 hdistinct
  refine (hsorted.and hstarts).imp fun ⟨hbefore, hne⟩ ↦ ?_
  rw [Span.before_iff] at hbefore
  omega

theorem exists_mem_mixedDelimiters_iff :
    (∃ d ∈ t.mixedDelimiters, d.span = a) ↔ a ∈ t.mixedSpans := by
  simp [mixedDelimiters]

/-- **Mixed delimiters are found where they stand.**  Every finding is at something that a pattern
describes, the findings are in the order of the text and none comes twice, and the two patterns
with blanks miss nothing. -/
theorem mixedDelimiters_ordered_complete (t : Text) :
    (∀ d ∈ t.mixedDelimiters, ∃ (p : MixedPattern) (w : Text), p.Matches w ∧ d.span.Covers t w) ∧
    (t.mixedDelimiters.Pairwise fun d e ↦ d.span.start < e.span.start) ∧
    ∀ (k : Nat) (w : Text), expressionThenPercent.Matches w ∨ percentThenExpression.Matches w →
      t.HasAt k w → ⟨⟨k, k + w.length⟩, .mixedDelimiters, .error⟩ ∈ t.mixedDelimiters := by
  refine ⟨fun d hd ↦ ?_, ?_, fun k w hw hat ↦ ?_⟩
  · exact (mem_mixedSpans_iff.1 (exists_mem_mixedDelimiters_iff.1 ⟨d, hd, rfl⟩)).1
  · exact List.pairwise_map.2 (pairwise_mixedSpans t)
  · refine List.mem_map_of_mem (mem_mixedSpans_iff.2 ?_)
    have hcovers : Span.Covers ⟨k, k + w.length⟩ t w := Span.covers_of_hasAt hat
    have hoccurs : ∃ p ∈ [expressionThenPercent, percentThenExpression],
        p.OccursAt t ⟨k, k + w.length⟩ := by
      rcases hw with hw | hw
      · exact ⟨_, by decide, w, hw, hcovers⟩
      · exact ⟨_, by decide, w, hw, hcovers⟩
    obtain ⟨p, hp, hoccurs⟩ := hoccurs
    refine ⟨⟨p, hoccurs⟩, fun hshares ↦ ?_⟩
    obtain ⟨q, hq, -, -, -, -, hsecond⟩ := hshares.exists_occursAt
    obtain ⟨rfl, -⟩ := hoccurs.eq_of_start_eq hsecond rfl
    have hother : ∀ p ∈ [expressionThenPercent, percentThenExpression],
        p ∉ [commentPercent, statementHash] := by decide
    exact hother p hp hq

/-- In `{{{ %}}` the percent sign belongs to two mixed delimiters, and both are found. -/
theorem mixedDelimiters_ordered_complete_braces :
    let t : Text := ['{', '{', '{', ' ', '%', '}', '}']
    ⟨⟨1, 5⟩, .mixedDelimiters, .error⟩ ∈ t.mixedDelimiters ∧
      ⟨⟨4, 7⟩, .mixedDelimiters, .error⟩ ∈ t.mixedDelimiters := by
  intro t
  obtain ⟨-, -, hcomplete⟩ := mixedDelimiters_ordered_complete t
  have hfirst : expressionThenPercent.Matches ['{', '{', ' ', '%'] :=
    ⟨[' '], List.all_eq_true.1 rfl, rfl⟩
  have hsecond : percentThenExpression.Matches ['%', '}', '}'] := ⟨[], List.all_eq_true.1 rfl, rfl⟩
  exact ⟨hcomplete 1 _ (.inl hfirst) ⟨['{'], ['}', '}'], rfl, rfl⟩,
    hcomplete 4 _ (.inr hsecond) ⟨['{', '{', '{', ' '], [], rfl, rfl⟩⟩

/-- **When a word that mixes a comment and a statement is found.**  It is, unless it shares its
first sign with such a word before it; then that one is found, so that the sign is marked in any
case. -/
theorem contamination_found_iff {t w : Text} {k : Nat} (hw : w ∈ contaminations)
    (hat : t.HasAt k w) :
    ((∃ d ∈ t.mixedDelimiters, d.span = ⟨k, k + 3⟩) ↔ ¬ Shares t k) ∧
      ∃ d ∈ t.mixedDelimiters, d.span.start ≤ k ∧ k < d.span.stop := by
  obtain ⟨p, hp, hlength⟩ := exists_matches_of_mem_contaminations hw
  have hoccurs : ∃ p : MixedPattern, p.OccursAt t ⟨k, k + 3⟩ := ⟨p, w, hp, hat, by rw [hlength]⟩
  have hfound : (∃ d ∈ t.mixedDelimiters, d.span = ⟨k, k + 3⟩) ↔ ¬ Shares t k := by
    rw [exists_mem_mixedDelimiters_iff, mem_mixedSpans_iff, and_iff_right hoccurs]
  refine ⟨hfound, ?_⟩
  by_cases hshares : Shares t k
  · obtain ⟨q, -, i, rfl, hbrace, hfirst, -⟩ := hshares.exists_occursAt
    obtain ⟨d, hd, hspan⟩ := exists_mem_mixedDelimiters_iff.2
      (mem_mixedSpans_iff.2 ⟨⟨q, hfirst⟩, not_shares_of_brace hbrace⟩)
    refine ⟨d, hd, ?_⟩
    rw [hspan]
    exact ⟨Nat.le_add_right i 2, Nat.lt_succ_self (i + 2)⟩
  · obtain ⟨d, hd, hspan⟩ := hfound.2 hshares
    refine ⟨d, hd, ?_⟩
    rw [hspan]
    exact ⟨Nat.le_refl k, Nat.lt_add_of_pos_right (by decide)⟩

/-- In `#%}{#%#}` the first two words are found, and the third is passed over. -/
theorem contamination_found_iff_three :
    let t : Text := ['#', '%', '}', '{', '#', '%', '#', '}']
    (∃ d ∈ t.mixedDelimiters, d.span = ⟨3, 6⟩) ∧
      ¬ (∃ d ∈ t.mixedDelimiters, d.span = ⟨5, 8⟩) := by
  intro t
  have hsecond : t.HasAt 3 ['{', '#', '%'] := ⟨['#', '%', '}'], ['#', '}'], rfl, rfl⟩
  have hthird : t.HasAt 5 ['%', '#', '}'] := ⟨['#', '%', '}', '{', '#'], [], rfl, rfl⟩
  have hshares : Shares t 5 := ⟨3, rfl, _, List.mem_cons_self, ['#', '%', '}'], [], rfl, rfl⟩
  exact ⟨(contamination_found_iff (by decide) hsecond).1.2 (not_shares_of_brace rfl),
    fun h ↦ (contamination_found_iff (by decide) hthird).1.1 h hshares⟩

/-- In `{#%#}` the second word is not found. -/
theorem contamination_not_found :
    let t : Text := ['{', '#', '%', '#', '}']
    t.HasAt 2 ['%', '#', '}'] ∧ ['%', '#', '}'] ∈ contaminations ∧
      t.mixedDelimiters = [⟨⟨0, 3⟩, .mixedDelimiters, .error⟩] :=
  ⟨⟨['{', '#'], [], rfl, rfl⟩, by decide, by decide +kernel⟩

end Text
end TemplateAssist
