import TemplateAssist.Lint.MixedDelimiters
import TemplateAssist.Proofs.Block.Written
import TemplateAssist.Proofs.Text.Trim

/-!
# What counts as a mixed delimiter

`MixedPattern.Matches` says which texts each of the four patterns describes, and
`match?_eq_some_iff` that a search finds them where they stand.

The other half of the file is about texts in which there is nothing to find (`Unmixed`).  Such a
text is built up from its end.  What may be put before it depends on how it starts: a percent sign
reaches over any number of blanks to two closing braces, and the two signs of `%#}` and `#%}` are
told apart only by the brace.  `Capped` is the condition on the start, and `Unmixed.spaced` uses it
to put a block before a text.
-/

set_option autoImplicit false

namespace TemplateAssist
namespace MixedPattern

/-! ## Matches -/

/-- The texts that a pattern describes. -/
def Matches : MixedPattern → Text → Prop
  | expressionThenPercent => fun w ↦
    ∃ blanks : Text, (∀ c ∈ blanks, isBlank c = true) ∧ w = ['{', '{'] ++ (blanks ++ ['%'])
  | percentThenExpression => fun w ↦
    ∃ blanks : Text, (∀ c ∈ blanks, isBlank c = true) ∧ w = ['%'] ++ (blanks ++ ['}', '}'])
  | commentPercent => fun w ↦ w = ['{', '#', '%'] ∨ w = ['%', '#', '}']
  | statementHash => fun w ↦ w = ['{', '%', '#'] ∨ w = ['#', '%', '}']

theorem takeWhile_blanks {blanks last : Text} {d : Char} (rest : Text)
    (hb : ∀ c ∈ blanks, isBlank c = true) (hlast : last.head? = some d)
    (hd : isBlank d = false) : (blanks ++ (last ++ rest)).takeWhile isBlank = blanks := by
  cases last with
  | nil => cases hlast
  | cons e last =>
    obtain rfl := Option.some.inj hlast
    rw [List.takeWhile_append_of_pos hb, List.cons_append,
      List.takeWhile_cons_of_neg (by simp [hd]), List.append_nil]

theorem aroundBlanks?_eq_some_iff {first last t : Text} {n : Nat} {d : Char}
    (hlast : last.head? = some d) (hd : isBlank d = false) :
    aroundBlanks? first last t = some n ↔ ∃ blanks rest : Text, (∀ c ∈ blanks, isBlank c = true) ∧
      t = first ++ (blanks ++ last) ++ rest ∧ (first ++ (blanks ++ last)).length = n := by
  constructor
  · intro h
    rw [aroundBlanks?] at h
    split at h
    · next hfirst =>
      obtain ⟨t', rfl⟩ := List.isPrefixOf_iff_prefix.1 hfirst
      simp only [List.drop_left] at h
      split at h
      · next hl =>
        obtain ⟨rest, hrest⟩ := List.isPrefixOf_iff_prefix.1 hl
        have ht : t' = t'.takeWhile isBlank ++ (last ++ rest) := by
          rw [hrest]
          exact (List.prefix_iff_eq_append.1 (List.takeWhile_prefix isBlank)).symm
        refine ⟨t'.takeWhile isBlank, rest, fun c hc ↦ List.mem_takeWhile_imp hc, ?_, ?_⟩
        · rw [List.append_assoc, List.append_assoc, ← ht]
        · obtain rfl := Option.some.inj h
          simp only [List.length_append]
          omega
      · cases h
    · cases h
  · rintro ⟨blanks, rest, hb, rfl, rfl⟩
    have hfirst : first.isPrefixOf (first ++ (blanks ++ last) ++ rest) = true :=
      List.isPrefixOf_iff_prefix.2 ⟨(blanks ++ last) ++ rest, (List.append_assoc ..).symm⟩
    rw [aroundBlanks?, if_pos hfirst]
    simp only [List.append_assoc, List.drop_left, takeWhile_blanks rest hb hlast hd]
    rw [if_pos (List.isPrefixOf_iff_prefix.2 ⟨rest, rfl⟩)]
    simp only [List.length_append, Nat.add_assoc]

theorem oneOf?_eq_some_iff {words : List Text} {t : Text} {k n : Nat}
    (hk : ∀ w ∈ words, w.length = k) :
    oneOf? words t = some n ↔ ∃ w rest : Text, w ∈ words ∧ t = w ++ rest ∧ w.length = n := by
  rw [oneOf?, Option.map_eq_some_iff]
  constructor
  · rintro ⟨w, hw, rfl⟩
    have hpre : w.isPrefixOf t = true := by simpa using List.find?_some hw
    obtain ⟨rest, rfl⟩ := List.isPrefixOf_iff_prefix.1 hpre
    exact ⟨w, rest, List.mem_of_find?_eq_some hw, rfl, rfl⟩
  · rintro ⟨w, rest, hw, rfl, rfl⟩
    cases hf : words.find? (·.isPrefixOf (w ++ rest)) with
    | none =>
      have := List.find?_eq_none.1 hf w hw
      exact absurd (List.isPrefixOf_iff_prefix.2 ⟨rest, rfl⟩) this
    | some w' => exact ⟨w', rfl, (hk w' (List.mem_of_find?_eq_some hf)).trans (hk w hw).symm⟩

/-- **A pattern matches at the start of a text** exactly when the text starts with something that
the pattern describes. -/
theorem match?_eq_some_iff {p : MixedPattern} {t : Text} {n : Nat} :
    p.match? t = some n ↔ ∃ w rest : Text, p.Matches w ∧ t = w ++ rest ∧ w.length = n := by
  cases p with
  | expressionThenPercent =>
    rw [match?, aroundBlanks?_eq_some_iff rfl (by decide)]
    constructor
    · rintro ⟨blanks, rest, hb, ht, hn⟩
      exact ⟨_, rest, ⟨blanks, hb, rfl⟩, ht, hn⟩
    · rintro ⟨w, rest, ⟨blanks, hb, rfl⟩, ht, hn⟩
      exact ⟨blanks, rest, hb, ht, hn⟩
  | percentThenExpression =>
    rw [match?, aroundBlanks?_eq_some_iff rfl (by decide)]
    constructor
    · rintro ⟨blanks, rest, hb, ht, hn⟩
      exact ⟨_, rest, ⟨blanks, hb, rfl⟩, ht, hn⟩
    · rintro ⟨w, rest, ⟨blanks, hb, rfl⟩, ht, hn⟩
      exact ⟨blanks, rest, hb, ht, hn⟩
  | commentPercent =>
    rw [match?, oneOf?_eq_some_iff (k := 3) (by decide)]
    simp [Matches]
  | statementHash =>
    rw [match?, oneOf?_eq_some_iff (k := 3) (by decide)]
    simp [Matches]

theorem match?_eq_none_iff {p : MixedPattern} {t : Text} :
    p.match? t = none ↔ ∀ w rest : Text, p.Matches w → t ≠ w ++ rest := by
  rw [Option.eq_none_iff_forall_ne_some]
  constructor
  · intro h w rest hw ht
    exact h w.length (match?_eq_some_iff.2 ⟨w, rest, hw, ht, rfl⟩)
  · intro h n hn
    obtain ⟨w, rest, hw, ht, -⟩ := match?_eq_some_iff.1 hn
    exact h w rest hw ht

/-- A match starts with a brace or a sign. -/
theorem match?_cons_eq_none {c : Char} (p : MixedPattern) (t : Text) (hb : c ≠ '{')
    (hp : c ≠ '%') (hh : c ≠ '#') : p.match? (c :: t) = none := by
  refine match?_eq_none_iff.2 fun w rest hw ht ↦ ?_
  cases p with
  | expressionThenPercent =>
    obtain ⟨blanks, -, rfl⟩ := hw
    exact hb (List.cons.inj ht).1
  | percentThenExpression =>
    obtain ⟨blanks, -, rfl⟩ := hw
    exact hp (List.cons.inj ht).1
  | commentPercent =>
    rcases hw with rfl | rfl
    · exact hb (List.cons.inj ht).1
    · exact hp (List.cons.inj ht).1
  | statementHash =>
    rcases hw with rfl | rfl
    · exact hb (List.cons.inj ht).1
    · exact hh (List.cons.inj ht).1

end MixedPattern

namespace Text

/-! ## Texts without mixed delimiters -/

/-- No mixed delimiter starts anywhere in the text. -/
inductive Unmixed : Text → Prop
  | nil : Unmixed []
  | cons {c : Char} {t : Text} (hc : ∀ p : MixedPattern, p.match? (c :: t) = none)
      (ht : Unmixed t) : Unmixed (c :: t)

/-- The start of the text completes no mixed delimiter that begins before it. -/
structure Capped (t : Text) : Prop where
  brace : t.trimLeft.head? ≠ some '}'
  hash : ¬ ['#', '}'] <+: t
  percent : ¬ ['%', '}'] <+: t

theorem Unmixed.matchesFrom_eq_nil {t : Text} (h : t.Unmixed) (p : MixedPattern) (offset : Nat) :
    p.matchesFrom offset 0 t = [] := by
  induction h generalizing offset with
  | nil => rfl
  | cons hc _ ih =>
    rw [MixedPattern.matchesFrom, hc p]
    exact ih (offset + 1)

theorem Unmixed.mixedDelimiters_eq_nil {t : Text} (h : t.Unmixed) : t.mixedDelimiters = [] := by
  have hnil : MixedPattern.all.flatMap (·.spans t) = [] :=
    List.flatMap_eq_nil_iff.2 fun p _ ↦ h.matchesFrom_eq_nil p 0
  rw [mixedDelimiters, mixedSpans, hnil, List.mergeSort_nil, List.map_nil]

theorem capped_nil : Capped [] where
  brace := by simp [trimLeft]
  hash := by simp
  percent := by simp

theorem Capped.head?_ne {t : Text} (h : t.Capped) : t.head? ≠ some '}' := by
  intro hh
  obtain ⟨rest, rfl⟩ : ∃ rest, t = '}' :: rest := by
    cases t with
    | nil => cases hh
    | cons c t => exact ⟨t, by rw [Option.some.inj hh]⟩
  refine h.brace ?_
  rw [trimLeft_cons rest (by decide)]
  rfl

/-- A text that starts with an opening brace is capped. -/
theorem capped_brace (t : Text) : Capped ('{' :: t) where
  brace := by rw [trimLeft_cons t (by decide)]; simp
  hash := by simp
  percent := by simp

/-! ## Building up from the end -/

/-- A character that is no brace, before a capped text. -/
theorem Capped.cons {c : Char} {t : Text} (h : t.Capped) (hc : c ≠ '}') : Capped (c :: t) where
  brace := by
    cases hb : isBlank c with
    | true =>
      rw [trimLeft, List.dropWhile_cons_of_pos hb]
      exact h.brace
    | false =>
      rw [trimLeft_cons t hb]
      simpa using hc
  hash := by
    rintro ⟨rest, hrest⟩
    refine h.head?_ne ?_
    rw [← (List.cons.inj hrest).2]
    rfl
  percent := by
    rintro ⟨rest, hrest⟩
    refine h.head?_ne ?_
    rw [← (List.cons.inj hrest).2]
    rfl

/-- A percent sign reaches over blanks, to two closing braces only. -/
theorem Unmixed.percent {t : Text} (h : t.Unmixed) (hbraces : ¬ ['}', '}'] <+: t.trimLeft)
    (hhash : ¬ ['#', '}'] <+: t) : Unmixed ('%' :: t) := by
  refine .cons (fun p ↦ MixedPattern.match?_eq_none_iff.2 fun w rest hw ht ↦ ?_) h
  cases p with
  | expressionThenPercent =>
    obtain ⟨blanks, -, rfl⟩ := hw
    cases (List.cons.inj ht).1
  | percentThenExpression =>
    obtain ⟨blanks, hb, rfl⟩ := hw
    have htail : t = blanks ++ ('}' :: '}' :: rest) := by simpa using ht
    refine hbraces ⟨rest, ?_⟩
    rw [htail, trimLeft_append_of_blank _ hb, trimLeft_cons _ (by decide)]
    rfl
  | commentPercent =>
    rcases hw with rfl | rfl
    · cases (List.cons.inj ht).1
    · exact hhash ⟨rest, (List.cons.inj ht).2.symm⟩
  | statementHash =>
    rcases hw with rfl | rfl <;> cases (List.cons.inj ht).1

theorem Unmixed.hash {t : Text} (h : t.Unmixed) (hpercent : ¬ ['%', '}'] <+: t) :
    Unmixed ('#' :: t) := by
  refine .cons (fun p ↦ MixedPattern.match?_eq_none_iff.2 fun w rest hw ht ↦ ?_) h
  cases p with
  | expressionThenPercent =>
    obtain ⟨blanks, -, rfl⟩ := hw
    cases (List.cons.inj ht).1
  | percentThenExpression =>
    obtain ⟨blanks, -, rfl⟩ := hw
    cases (List.cons.inj ht).1
  | commentPercent =>
    rcases hw with rfl | rfl <;> cases (List.cons.inj ht).1
  | statementHash =>
    rcases hw with rfl | rfl
    · cases (List.cons.inj ht).1
    · exact hpercent ⟨rest, (List.cons.inj ht).2.symm⟩

theorem Unmixed.other {c : Char} {t : Text} (h : t.Unmixed) (hb : c ≠ '{') (hp : c ≠ '%')
    (hh : c ≠ '#') : Unmixed (c :: t) :=
  .cons (fun p ↦ p.match?_cons_eq_none t hb hp hh) h

theorem Unmixed.cons_capped {c : Char} {t : Text} (h : t.Unmixed) (hcap : t.Capped)
    (hc : c ≠ '{') : Unmixed (c :: t) := by
  by_cases hp : c = '%'
  · subst hp
    refine h.percent ?_ hcap.hash
    rintro ⟨rest, hrest⟩
    exact hcap.brace (by rw [← hrest]; rfl)
  · by_cases hh : c = '#'
    · subst hh
      exact h.hash hcap.percent
    · exact h.other hc hp hh

/-- A text without braces. -/
def BraceFree (t : Text) : Prop := ∀ c ∈ t, c ≠ '{' ∧ c ≠ '}'

/-- Text without braces can stand before a capped text. -/
theorem Unmixed.append_braceFree {u t : Text} (h : t.Unmixed) (hcap : t.Capped)
    (hu : u.BraceFree) : Unmixed (u ++ t) ∧ Capped (u ++ t) := by
  induction u with
  | nil => exact ⟨h, hcap⟩
  | cons c u ih =>
    obtain ⟨hun, hcap'⟩ := ih fun d hd ↦ hu d (List.mem_cons_of_mem c hd)
    obtain ⟨ho, hc⟩ := hu c List.mem_cons_self
    exact ⟨hun.cons_capped hcap' ho, hcap'.cons hc⟩

/-! ## Blocks -/

theorem Unmixed.brace {t : Text} (h : t.Unmixed)
    (hbrace : ∀ t' : Text, t = '{' :: t' → t'.trimLeft.head? ≠ some '%')
    (hhash : ¬ ['#', '%'] <+: t) (hpercent : ¬ ['%', '#'] <+: t) : Unmixed ('{' :: t) := by
  refine .cons (fun p ↦ MixedPattern.match?_eq_none_iff.2 fun w rest hw ht ↦ ?_) h
  cases p with
  | expressionThenPercent =>
    obtain ⟨blanks, hb, rfl⟩ := hw
    have htail : t = '{' :: (blanks ++ ('%' :: rest)) := by simpa using ht
    refine hbrace _ htail ?_
    rw [trimLeft_append_of_blank _ hb, trimLeft_cons _ (by decide)]
    rfl
  | percentThenExpression =>
    obtain ⟨blanks, -, rfl⟩ := hw
    cases (List.cons.inj ht).1
  | commentPercent =>
    rcases hw with rfl | rfl
    · exact hhash ⟨rest, (List.cons.inj ht).2.symm⟩
    · cases (List.cons.inj ht).1
  | statementHash =>
    rcases hw with rfl | rfl
    · exact hpercent ⟨rest, (List.cons.inj ht).2.symm⟩
    · cases (List.cons.inj ht).1

/-- A closer with a blank before it. -/
theorem Unmixed.closer {rest : Text} (kind : BlockKind) (h : rest.Unmixed)
    (hhead : rest.head? ≠ some '}') : Unmixed (' ' :: (kind.closer ++ rest)) := by
  have hbrace : Unmixed ('}' :: rest) := h.other (by decide) (by decide) (by decide)
  refine Unmixed.other ?_ (by decide) (by decide) (by decide)
  cases kind with
  | expression => exact hbrace.other (by decide) (by decide) (by decide)
  | comment => exact hbrace.hash (by simp)
  | statement =>
    refine hbrace.percent ?_ (by simp)
    rw [trimLeft_cons rest (by decide)]
    rintro ⟨rest', hrest⟩
    refine hhead ?_
    rw [← (List.cons.inj hrest).2]
    rfl

theorem capped_closer {kind : BlockKind} (rest : Text) (hk : kind ≠ .expression) :
    Capped (' ' :: (kind.closer ++ rest)) where
  brace := by
    rw [trimLeft, List.dropWhile_cons_of_pos (by decide)]
    cases kind with
    | expression => exact absurd rfl hk
    | statement => exact fun h ↦ absurd (Option.some.inj h) (by decide)
    | comment => exact fun h ↦ absurd (Option.some.inj h) (by decide)
  hash := by simp
  percent := by simp

/-- An opener with a blank after it. -/
theorem Unmixed.opener {t : Text} (kind : BlockKind) (h : t.Unmixed)
    (hexpr : kind = .expression → t.trimLeft.head? ≠ some '%')
    (hstmt : kind = .statement → t.Capped) : Unmixed (kind.opener ++ ' ' :: t) := by
  have hblank : Unmixed (' ' :: t) := h.other (by decide) (by decide) (by decide)
  cases kind with
  | expression =>
    refine (hblank.brace ?_ (by simp) (by simp)).brace ?_ (by simp) (by simp)
    · intro t' ht
      cases ht
    · intro t' ht
      rw [← (List.cons.inj ht).2, trimLeft, List.dropWhile_cons_of_pos (by decide)]
      exact hexpr rfl
  | statement =>
    have hcap : Capped (' ' :: t) := (hstmt rfl).cons (by decide)
    refine (hblank.cons_capped hcap (by decide)).brace ?_ (by simp) (by simp)
    intro t' ht
    cases ht
  | comment =>
    refine (hblank.hash (by simp)).brace ?_ (by simp) (by simp)
    intro t' ht
    cases ht

/-- Blanks can stand before any text. -/
theorem Unmixed.append_blanks {blanks t : Text} (h : t.Unmixed)
    (hb : ∀ c ∈ blanks, isBlank c = true) : Unmixed (blanks ++ t) := by
  induction blanks with
  | nil => exact h
  | cons c blanks ih =>
    have hc : isBlank c = true := hb c List.mem_cons_self
    refine (ih fun d hd ↦ hb d (List.mem_cons_of_mem c hd)).other ?_ ?_ ?_ <;>
      (rintro rfl; revert hc; decide)

/-- The text of an expression that does not end with a percent sign can stand before a closer. -/
theorem Unmixed.append_expression {u t : Text} (hu : u.BraceFree)
    (hlast : u.trim.getLast? ≠ some '%') (h : Unmixed (' ' :: t)) :
    Unmixed (u ++ ' ' :: t) := by
  obtain ⟨pre, post, htrim, hpre, hpost⟩ := u.exists_blanks_trim
  have hafter : Unmixed (post ++ ' ' :: t) := h.append_blanks hpost
  have hblank : ∀ c, (post ++ ' ' :: t).head? = some c → isBlank c = true := by
    cases post with
    | nil => intro c hc; obtain rfl := Option.some.inj hc; decide
    | cons d post =>
      intro c hc
      obtain rfl := Option.some.inj hc
      exact hpost _ List.mem_cons_self
  rcases List.eq_nil_or_concat u.trim with hnil | ⟨m, d, hm⟩
  · rw [hnil, List.nil_append] at htrim
    rw [htrim, List.append_assoc]
    exact hafter.append_blanks hpre
  -- The last character of the trimmed text keeps what stands before it from the closer.
  · have hsplit : u = pre ++ m ++ d :: post := by rw [htrim, hm]; simp
    have hd : d ≠ '%' := by
      rintro rfl
      rw [hm] at hlast
      simp at hlast
    have hdb : isBlank d = false := by
      refine isBlank_of_getLast?_trimRight (t := u.trimLeft) ?_
      show u.trim.getLast? = some d
      rw [hm]
      simp
    obtain ⟨hdo, hdc⟩ := hu d (by rw [hsplit]; simp)
    have hclosed : ∀ c : Char, isBlank c = false → ¬ [c, '}'] <+: post ++ ' ' :: t := by
      rintro c hc ⟨rest, hrest⟩
      have hb := hblank c (by rw [← hrest]; rfl)
      rw [hc] at hb
      cases hb
    have hun : Unmixed (d :: (post ++ ' ' :: t)) := by
      by_cases hh : d = '#'
      · subst hh
        exact hafter.hash (hclosed '%' (by decide))
      · exact hafter.other hdo hd hh
    have hnext : (post ++ ' ' :: t).head? ≠ some '}' := fun hh ↦
      absurd (hblank '}' hh) (by decide)
    have hcap : Capped (d :: (post ++ ' ' :: t)) := by
      refine ⟨?_, ?_, ?_⟩
      · rw [trimLeft_cons _ hdb]
        simpa using hdc
      · rintro ⟨rest, hrest⟩
        exact hnext (by rw [← (List.cons.inj hrest).2]; rfl)
      · rintro ⟨rest, hrest⟩
        exact hnext (by rw [← (List.cons.inj hrest).2]; rfl)
    have hbefore : BraceFree (pre ++ m) := by
      intro c hc
      refine hu c ?_
      rw [hsplit]
      exact List.mem_append_left _ hc
    have hresult := (hun.append_braceFree hcap hbefore).1
    rw [hsplit]
    simpa using hresult

/-- **A block written with blanks inside its delimiters mixes none**, if there are no braces in it
and, for an expression, no percent sign at its ends. -/
theorem Unmixed.spaced {kind : BlockKind} {inner rest : Text} (h : rest.Unmixed)
    (hcap : rest.Capped) (hinner : inner.BraceFree)
    (hexpr : kind = .expression →
      inner.trim.head? ≠ some '%' ∧ inner.trim.getLast? ≠ some '%') :
    Unmixed (kind.spaced inner ++ rest) ∧ Capped (kind.spaced inner ++ rest) := by
  have hcloser : Unmixed (' ' :: (kind.closer ++ rest)) := h.closer kind hcap.head?_ne
  have hcapped : Capped (kind.spaced inner ++ rest) := by
    rw [BlockKind.spaced_append]
    cases kind <;> exact capped_brace _
  refine ⟨?_, hcapped⟩
  rw [BlockKind.spaced_append]
  by_cases hk : kind = .expression
  · obtain ⟨hfirst, hlast⟩ := hexpr hk
    refine (Unmixed.append_expression hinner hlast hcloser).opener kind (fun _ ↦ ?_) ?_
    · rw [trimLeft, List.dropWhile_append]
      split
      · subst hk
        exact fun hh ↦ absurd (Option.some.inj hh) (by decide)
      · next hne =>
        obtain ⟨c, rest', hleft⟩ := List.exists_cons_of_ne_nil
          fun hnil ↦ hne (List.isEmpty_iff.2 hnil)
        have hhead : inner.trim.head? = some c := by
          rw [← head?_trimLeft, trimLeft, hleft]
          rfl
        rw [hleft]
        exact fun hh ↦ hfirst (hhead.trans hh)
    · intro hs
      rw [hk] at hs
      cases hs
  · obtain ⟨hun, hcap'⟩ := hcloser.append_braceFree (capped_closer rest hk) hinner
    exact hun.opener kind (fun he ↦ absurd he hk) fun _ ↦ hcap'

end Text
end TemplateAssist
