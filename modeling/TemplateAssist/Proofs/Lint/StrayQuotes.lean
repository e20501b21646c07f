import Mathlib.Data.Nat.Count
import Mathlib.Data.Set.Card
import TemplateAssist.Proofs.Block.Order
import TemplateAssist.Proofs.Block.Strides
import TemplateAssist.Proofs.Lint.BracketMatching
import TemplateAssist.Proofs.Lint.Marks

/-!
# Quotes that start no string literal

A quote for which the walk finds no end on its line is left to the check of quotes.  That check
counts, and this file says what it thereby notices.

* `Block.Stray` are the quotes that are left over, `Block.Literal` the string literals of a block,
  and `Block.InLiteral` the quotes between the two quotes of a literal.
* `Block.count_eq_of_meets` is the count: every quote of a block is left over, or stands in a
  literal, or is one of the two quotes of a literal.  It is carried from stride to stride.
* `Block.quote_reported_iff` is what follows for the report: the quotes of literals cancel out, and
  a report comes if the others are odd in number.  Two quotes that are left over are therefore
  passed over in silence (`Block.stray_not_reported`).
-/

set_option autoImplicit false

namespace TemplateAssist

/-! ## Counting by offsets -/

theorem ncard_setOf_eq_count {p : Nat → Prop} [DecidablePred p] {n : Nat} (h : ∀ k, p k → k < n) :
    {k | p k}.ncard = Nat.count p n := by
  rw [Nat.count_eq_card_filter_range, ← Set.ncard_coe_finset]
  congr 1
  ext k
  simpa using h k

/-- A count over a first offset, some more and a last one. -/
theorem count_add_two (p : Nat → Prop) [DecidablePred p] (i n : Nat) :
    Nat.count p (i + 1 + (n + 1)) = Nat.count p i + (if p i then 1 else 0)
      + Nat.count (fun k ↦ p (i + 1 + k)) n + if p (i + 1 + n) then 1 else 0 := by
  rw [← Nat.add_assoc, Nat.count_succ, Nat.count_add, Nat.count_succ]

theorem Text.count_take (c : Char) (t : Text) (n : Nat) :
    (t.take n).count c = Nat.count (fun i ↦ t[i]? = some c) n := by
  induction n with
  | zero => rfl
  | succ n ih =>
    rw [List.take_add_one, List.count_append, ih, Nat.count_succ]
    cases h : t[n]? with
    | none => simp
    | some d => by_cases hd : d = c <;> simp [hd]

theorem Quote.char_inj {quote other : Quote} : quote.char = other.char ↔ quote = other := by
  cases quote <;> cases other <;> decide

/-- A string literal ends with its quote. -/
theorem Region.getElem?_of_stringLength? {quote : Char} {t : Text} {n : Nat}
    (h : stringLength? quote t = some n) : ∃ m, n = m + 1 ∧ t[m]? = some quote := by
  fun_induction stringLength? quote t generalizing n with
  | case1 => cases h
  | case2 => cases h
  | case3 => cases h
  | case4 c rest ih =>
    obtain ⟨n, hn, rfl⟩ := Option.map_eq_some_iff.1 h
    obtain ⟨m, rfl, hm⟩ := ih hn
    exact ⟨m + 2, rfl, hm⟩
  | case5 rest =>
    obtain rfl := Option.some.inj h
    exact ⟨0, rfl, rfl⟩
  | case6 c rest _ _ _ _ ih =>
    obtain ⟨n, hn, rfl⟩ := Option.map_eq_some_iff.1 h
    obtain ⟨m, rfl, hm⟩ := ih hn
    exact ⟨m + 1, rfl, hm⟩

namespace Block

/-! ## The quotes of a block -/

/-- The walk comes to the quote at offset `k` in no string literal, and finds no end for it: the
line or the text ends first. -/
structure Stray (t : Text) (b : Block) (quote : Quote) (k : Nat) : Prop where
  metAt : b.MetAt t k
  char_eq : t[k]? = some quote.char
  length_eq : Region.stringLength? quote.char (t.drop (k + 1)) = none

/-- The walk comes to a string literal at offset `k`, which ends `n` characters later. -/
structure Literal (t : Text) (b : Block) (quote : Quote) (k n : Nat) : Prop where
  metAt : b.MetAt t k
  char_eq : t[k]? = some quote.char
  length_eq : Region.stringLength? quote.char (t.drop (k + 1)) = some n

/-- The quote at offset `k` stands between the two quotes of a string literal, of the other kind or
escaped. -/
def InLiteral (t : Text) (b : Block) (quote : Quote) (k : Nat) : Prop :=
  t[k]? = some quote.char ∧ ∃ other i n, b.Literal t other i n ∧ i < k ∧ k < i + n

section

variable {t : Text} {b : Block} {quote other : Quote} {i j k n : Nat}

theorem drop_of_getElem? {c : Char} (h : t[k]? = some c) : t.drop k = c :: t.drop (k + 1) := by
  obtain ⟨hlt, rfl⟩ := List.getElem?_eq_some_iff.1 h
  exact List.drop_eq_getElem_cons hlt

/-- The stride from a quote. -/
theorem stride_quote (hkind : b.kind ≠ .comment) (h : t[k]? = some quote.char) :
    Region.stride t b.kind k
      = some (k + 1 + (Region.stringLength? quote.char (t.drop (k + 1))).getD 0) := by
  rw [Region.stride_of_drop_eq (drop_of_getElem? h) (Walk.closing?_quote _ _),
    Region.literalAt?_quote quote _ hkind]

theorem Literal.stride_eq (h : b.Literal t quote k n) (hkind : b.kind ≠ .comment) :
    Region.stride t b.kind k = some (k + 1 + n) := by
  rw [stride_quote hkind h.char_eq, h.length_eq]
  rfl

/-- A stride goes over one character, or over a string literal. -/
theorem stride_cases (hkind : b.kind ≠ .comment) (hmet : b.MetAt t i)
    (h : Region.stride t b.kind i = some j) :
    (j = i + 1 ∧ ∀ quote n, ¬ b.Literal t quote i n) ∨
      ∃ quote n, b.Literal t quote i n ∧ j = i + 1 + n := by
  obtain ⟨c, rest, hrest, -, rfl⟩ := Region.exists_of_stride_eq h
  have hchar : t[i]? = some c := by
    rw [← List.head?_drop, hrest]
    rfl
  obtain rfl : t.drop (i + 1) = rest := by
    rw [← List.drop_drop, hrest]
    rfl
  cases hlit : Region.literalAt? b.kind c (t.drop (i + 1)) with
  | some n =>
    rw [Region.literalAt?] at hlit
    split at hlit
    · cases hlit
    · obtain ⟨quote, hquote, hlength⟩ := Option.bind_eq_some_iff.1 hlit
      obtain rfl := Quote.ofChar?_eq_some_iff.1 hquote
      exact .inr ⟨quote, n, ⟨hmet, hchar, hlength⟩, rfl⟩
  | none =>
    refine .inl ⟨rfl, fun quote n hliteral ↦ ?_⟩
    have hstride := hliteral.stride_eq hkind
    obtain ⟨m, rfl, -⟩ := Region.getElem?_of_stringLength? hliteral.length_eq
    rw [h, hlit, Option.some_inj] at hstride
    exact absurd hstride (by simp)

/-- The walk comes to no place inside of a stride. -/
theorem MetAt.le_or_le (hb : b ∈ t.blocks) (hi : b.MetAt t i) (hk : b.MetAt t k)
    (h : Region.stride t b.kind i = some j) : k ≤ i ∨ j ≤ k := by
  rw [metAt_iff hb] at hi hk
  obtain hle | ⟨j', hstride, hle⟩ := hi.le_or_stride_le hk
  · exact .inl hle
  · rw [h, Option.some_inj] at hstride
    exact .inr (hstride ▸ hle)

/-- A literal that reaches into a stride starts where the stride does. -/
theorem Literal.eq_of_mem_stride (hb : b ∈ t.blocks) (hkind : b.kind ≠ .comment)
    (hi : b.MetAt t i) (h : Region.stride t b.kind i = some j) {start : Nat}
    (hlit : b.Literal t quote start n) (hik : i ≤ k) (hkj : k < j) (hstart : start ≤ k)
    (hstop : k ≤ start + n) : start = i := by
  have hbefore := MetAt.le_or_le hb hi hlit.metAt h
  have hafter := MetAt.le_or_le hb hlit.metAt hi (hlit.stride_eq hkind)
  omega

/-- Where the walk comes to a quote that starts no literal, it is left over. -/
theorem stray_iff_of_not_literal (hmet : b.MetAt t i) (h : ∀ quote n, ¬ b.Literal t quote i n) :
    b.Stray t quote i ↔ t[i]? = some quote.char := by
  constructor
  · exact Stray.char_eq
  · intro hchar
    cases hlength : Region.stringLength? quote.char (t.drop (i + 1)) with
    | none => exact ⟨hmet, hchar, hlength⟩
    | some n => exact absurd ⟨hmet, hchar, hlength⟩ (h quote n)

end

section

open Classical

variable {t : Text} {b : Block} {other : Quote} {i n : Nat}

theorem Literal.count_stray (hb : b ∈ t.blocks) (hkind : b.kind ≠ .comment)
    (h : b.Literal t other i n) (quote : Quote) :
    Nat.count (b.Stray t quote) (i + 1 + n) = Nat.count (b.Stray t quote) i := by
  rw [Nat.add_assoc, Nat.count_add, Nat.add_eq_left, Nat.count_iff_forall_not]
  intro k hk hstray
  have hmet := MetAt.le_or_le hb h.metAt hstray.metAt (h.stride_eq hkind)
  obtain rfl : k = 0 := by omega
  have hchar := h.char_eq.symm.trans hstray.char_eq
  have hlength := hstray.length_eq
  rw [Nat.add_zero, ← Option.some.inj hchar, h.length_eq] at hlength
  cases hlength

theorem Literal.count_literal (hb : b ∈ t.blocks) (hkind : b.kind ≠ .comment)
    (h : b.Literal t other i n) (quote : Quote) :
    Nat.count (fun k ↦ ∃ n, b.Literal t quote k n) (i + 1 + n)
      = Nat.count (fun k ↦ ∃ n, b.Literal t quote k n) i + if other = quote then 1 else 0 := by
  have hlater : Nat.count (fun k ↦ ∃ n, b.Literal t quote (i + 1 + k) n) n = 0 := by
    refine Nat.count_iff_forall_not.2 fun k hk ⟨n', hlit⟩ ↦ ?_
    have hmet := MetAt.le_or_le hb h.metAt hlit.metAt (h.stride_eq hkind)
    omega
  have hhere : (∃ n, b.Literal t quote i n) ↔ other = quote := by
    constructor
    · rintro ⟨n', hlit⟩
      exact Quote.char_inj.1 (Option.some.inj (h.char_eq.symm.trans hlit.char_eq))
    · rintro rfl
      exact ⟨n, h⟩
  rw [Nat.count_add, Nat.count_succ, hlater, Nat.add_zero]
  simp only [hhere]

/-- What stands between the quotes of a literal. -/
theorem Literal.count_inLiteral (hb : b ∈ t.blocks) (hkind : b.kind ≠ .comment)
    (h : b.Literal t other i (n + 1)) (quote : Quote) :
    Nat.count (b.InLiteral t quote) (i + 1 + (n + 1)) = Nat.count (b.InLiteral t quote) i
      + Nat.count (fun k ↦ t[i + 1 + k]? = some quote.char) n := by
  have hstart : ∀ k, i ≤ k → k < i + 1 + (n + 1) → b.InLiteral t quote k →
      i < k ∧ k < i + (n + 1) := by
    rintro k hk hkj ⟨-, other', start, n', hlit, hlt, hlt'⟩
    obtain rfl := hlit.eq_of_mem_stride hb hkind h.metAt (h.stride_eq hkind) hk hkj
      (Nat.le_of_lt hlt) (Nat.le_of_lt hlt')
    have hstride := hlit.stride_eq hkind
    rw [h.stride_eq hkind, Option.some_inj] at hstride
    omega
  have hfirst : ¬ b.InLiteral t quote i := fun hin ↦ by
    have := hstart i (by omega) (by omega) hin
    omega
  have hlast : ¬ b.InLiteral t quote (i + 1 + n) := fun hin ↦ by
    have := hstart (i + 1 + n) (by omega) (by omega) hin
    omega
  have hbetween : Nat.count (fun k ↦ b.InLiteral t quote (i + 1 + k)) n
      = Nat.count (fun k ↦ t[i + 1 + k]? = some quote.char) n := by
    refine Nat.le_antisymm (Nat.count_mono_left fun k _ hin ↦ hin.1) ?_
    refine Nat.count_mono_left fun k hk hchar ↦ ⟨hchar, other, i, n + 1, h, ?_⟩
    omega
  rw [count_add_two, if_neg hfirst, if_neg hlast, hbetween]
  rfl

theorem Literal.count_char (h : b.Literal t other i (n + 1)) (quote : Quote) :
    Nat.count (fun k ↦ t[k]? = some quote.char) (i + 1 + (n + 1))
      = Nat.count (fun k ↦ t[k]? = some quote.char) i
        + Nat.count (fun k ↦ t[i + 1 + k]? = some quote.char) n
        + 2 * if other = quote then 1 else 0 := by
  have hlast : t[i + 1 + n]? = some other.char := by
    obtain ⟨m, hm, hlast⟩ := Region.getElem?_of_stringLength? h.length_eq
    obtain rfl := Nat.succ.inj hm
    rwa [List.getElem?_drop] at hlast
  rw [count_add_two]
  simp only [h.char_eq, hlast, Option.some_inj, Quote.char_inj]
  omega

/-- **Every quote of a block** is left over, or stands in a string literal, or is one of the two
quotes of a literal. -/
theorem count_eq_of_meets (hb : b ∈ t.blocks) (hkind : b.kind ≠ .comment) (quote : Quote)
    (h : Region.Meets t b.kind b.start i) :
    (t.take i).count quote.char = (t.take (b.start + 2)).count quote.char
      + Nat.count (b.Stray t quote) i + Nat.count (b.InLiteral t quote) i
      + 2 * Nat.count (fun k ↦ ∃ n, b.Literal t quote k n) i := by
  induction h with
  | refl =>
    have hle : ∀ k, b.MetAt t k → b.start + 2 ≤ k := fun k hk ↦ ((metAt_iff hb).1 hk).start_le
    have hstray : Nat.count (b.Stray t quote) (b.start + 2) = 0 :=
      Nat.count_iff_forall_not.2 fun k hk h ↦ absurd (hle k h.metAt) (by omega)
    have hin : Nat.count (b.InLiteral t quote) (b.start + 2) = 0 := by
      refine Nat.count_iff_forall_not.2 fun k hk ⟨_, _, i, _, hlit, hik, _⟩ ↦ ?_
      have := hle i hlit.metAt
      omega
    have hlit : Nat.count (fun k ↦ ∃ n, b.Literal t quote k n) (b.start + 2) = 0 :=
      Nat.count_iff_forall_not.2 fun k hk ⟨_, h⟩ ↦ absurd (hle k h.metAt) (by omega)
    rw [hstray, hin, hlit]
    rfl
  | @tail i j hmeets hstride ih =>
    have hmet : b.MetAt t i := (metAt_iff hb).2 hmeets
    rw [Text.count_take] at ih ⊢
    -- a stride over one character counts at most one quote, which is left over; a stride over a
    -- literal counts the two quotes of the literal and what stands between them
    obtain ⟨rfl, hnone⟩ | ⟨other, n, hlit, rfl⟩ := stride_cases hkind hmet hstride
    · have hinside : ¬ b.InLiteral t quote i := by
        rintro ⟨-, other, start, n, hlit, hlt, hlt'⟩
        have heq := hlit.eq_of_mem_stride hb hkind hmet hstride (Nat.le_refl i)
          (Nat.lt_succ_self i) (Nat.le_of_lt hlt) (Nat.le_of_lt hlt')
        omega
      simp only [Nat.count_succ, stray_iff_of_not_literal hmet hnone, if_neg hinside, hnone,
        exists_const, if_false, ih]
      omega
    · obtain ⟨m, rfl, -⟩ := Region.getElem?_of_stringLength? hlit.length_eq
      rw [hlit.count_char, hlit.count_stray hb hkind, hlit.count_inLiteral hb hkind,
        hlit.count_literal hb hkind, ih]
      omega

/-- The count for a whole block. -/
theorem count_content (hb : b ∈ t.blocks) (hkind : b.kind ≠ .comment) (quote : Quote) :
    ∃ literals, b.content.count quote.char
      = {k | b.Stray t quote k}.ncard + {k | b.InLiteral t quote k}.ncard + 2 * literals := by
  obtain ⟨o, close, htracks, hend, heq⟩ := Text.exists_tracks_of_mem_blocks hb
  have hmeets : Region.Meets t b.kind b.start close := by
    rw [heq]
    exact htracks.meets
  have hclose : Region.stride t b.kind close = none := by
    rw [heq]
    exact hend
  have hstray : ∀ k, b.Stray t quote k → k < close := by
    intro k hk
    have hle := ((metAt_iff hb).1 hk.metAt).stride_le (stride_quote hkind hk.char_eq) hmeets hclose
    omega
  have hin : ∀ k, b.InLiteral t quote k → k < close := by
    rintro k ⟨-, other, i, n, hlit, -, hki⟩
    have hle := ((metAt_iff hb).1 hlit.metAt).stride_le (hlit.stride_eq hkind) hmeets hclose
    omega
  have hcount := count_eq_of_meets hb hkind quote hmeets
  have hcontent : b.content.count quote.char = (t.slice (b.start + 2) close).count quote.char := by
    rw [heq]
    show (Text.trim (o.body.take (close - (o.start + 2)))).count quote.char = _
    rw [Pairing.count_trim, htracks.take_body]
    rfl
  rw [← Text.take_append_slice t hmeets.start_le, List.count_append, ← hcontent] at hcount
  rw [ncard_setOf_eq_count hstray, ncard_setOf_eq_count hin]
  exact ⟨Nat.count (fun k ↦ ∃ n, b.Literal t quote k n) close, by omega⟩

end

end Block

/-! ## What is reported -/

namespace Pairing

variable {t : Text} {b : Block} {quote : Quote} {f : Finding}

/-- Only the check of quotes speaks of quotes. -/
theorem mem_quotes_of_mem_check (hf : f ∈ check b) (hproblem : f.problem = .unmatchedQuote quote) :
    f ∈ quotes b.contentOffset b.content quote := by
  rw [check] at hf
  split at hf
  · cases hf
  · rcases List.mem_append.1 hf with hf | hf
    · obtain ⟨other, -, hf⟩ := List.mem_flatMap.1 hf
      have hf' := hf
      rw [quotes] at hf
      split at hf
      · obtain rfl := List.mem_singleton.1 hf
        cases hproblem
        exact hf'
      · cases hf
    · obtain ⟨bracket, -, hf⟩ := List.mem_flatMap.1 hf
      rw [brackets_eq_bracketReport, bracketReport, List.mem_append] at hf
      rcases hf with hf | hf
      · obtain ⟨j, -, rfl⟩ := List.mem_map.1 hf
        cases hproblem
      · obtain ⟨i, -, rfl⟩ := Option.map_eq_some_iff.1 (Option.mem_toList.1 hf)
        cases hproblem

/-- The report for quotes of one kind stands inside of the block. -/
theorem mem_quotes_bounds (hb : b ∈ t.blocks) (hf : f ∈ quotes b.contentOffset b.content quote) :
    Odd (b.content.count quote.char) ∧ f.problem = .unmatchedQuote quote ∧
      b.start ≤ f.span.start ∧ f.span.start < f.span.stop ∧ f.span.stop ≤ b.stop := by
  have hplaced := (Text.placed_of_mem_blocks hb).wellPlaced
  have hroom := hplaced.room
  have hbefore := hplaced.le_contentOffset
  have hafter := hplaced.content_before_closer
  rw [quotes] at hf
  split at hf
  · next hodd =>
    obtain rfl := List.mem_singleton.1 hf
    have hmem : quote.char ∈ b.content := List.count_pos_iff.1 (by omega)
    have hindex := (hasAt_lastIndex hmem).length_le
    rw [List.length_singleton] at hindex
    refine ⟨Nat.odd_iff.2 hodd, rfl, ?_, Nat.lt_succ_self _, ?_⟩
    · show b.start ≤ b.contentOffset + lastIndex quote.char b.content
      omega
    · show b.contentOffset + lastIndex quote.char b.content + 1 ≤ b.stop
      omega
  · cases hf

/-- A kind of quote is reported in a block exactly when their number is odd. -/
theorem exists_mem_pairing_iff (hb : b ∈ t.blocks) (hkind : b.kind ≠ .comment) :
    (∃ f ∈ pairing t.blocks, f.problem = .unmatchedQuote quote ∧
      b.start ≤ f.span.start ∧ f.span.stop ≤ b.stop) ↔ Odd (b.content.count quote.char) := by
  constructor
  · rintro ⟨f, hf, hproblem, hstart, hstop⟩
    obtain ⟨b', hb', hf⟩ := List.mem_flatMap.1 hf
    obtain ⟨hodd, -, hstart', hlt, hstop'⟩ :=
      mem_quotes_bounds hb' (mem_quotes_of_mem_check hf hproblem)
    by_cases heq : Item.block b' = .block b
    · rwa [← Item.block.inj heq]
    · have hspans : b'.stop ≤ b.start ∨ b.stop ≤ b'.start :=
        Text.before_or_after (Text.mem_blocks_iff.1 hb') (Text.mem_blocks_iff.1 hb) heq
      omega
  · intro hodd
    have hmem : ⟨.single (b.contentOffset + lastIndex quote.char b.content), .unmatchedQuote quote,
        .error⟩ ∈ quotes b.contentOffset b.content quote := by
      rw [quotes, if_pos (Nat.odd_iff.1 hodd)]
      exact List.mem_singleton_self _
    obtain ⟨-, hproblem, hstart, -, hstop⟩ := mem_quotes_bounds hb hmem
    refine ⟨_, List.mem_flatMap.2 ⟨b, hb, ?_⟩, hproblem, hstart, hstop⟩
    rw [check, if_neg hkind]
    refine List.mem_append_left _ (List.mem_flatMap.2 ⟨quote, ?_, hmem⟩)
    cases quote <;> decide

end Pairing

/-- **When quotes are reported.**  In an expression or a statement of a text, there is a report for
a kind of quote exactly when the quotes of this kind for which the walk finds no end, and those
inside of string literals, are odd in number. -/
theorem Block.quote_reported_iff {t : Text} {b : Block} (hb : b ∈ t.blocks)
    (hkind : b.kind ≠ .comment) (quote : Quote) :
    (∃ f ∈ pairing t.blocks, f.problem = .unmatchedQuote quote ∧
      b.start ≤ f.span.start ∧ f.span.stop ≤ b.stop) ↔
    Odd ({k | b.Stray t quote k}.ncard + {k | b.InLiteral t quote k}.ncard) := by
  obtain ⟨literals, hcount⟩ := count_content hb hkind quote
  rw [Pairing.exists_mem_pairing_iff hb hkind, hcount, Nat.odd_iff, Nat.odd_iff]
  omega

/-- In `"it's"+"b` two double quotes make a literal, and the third one is left over and reported. -/
theorem Block.quote_reported_iff_third_quote :
    let raw : Text := ['"', 'i', 't', '\'', 's', '"', '+', '"', 'b']
    let t := BlockKind.expression.write raw
    let b := Block.ofRaw .expression 0 raw
    let f : Finding := ⟨⟨9, 10⟩, .unmatchedQuote .double, .error⟩
    b ∈ t.blocks ∧ b.kind ≠ .comment ∧ b.Stray t .double 9 ∧ f ∈ pairing t.blocks ∧
      Odd ({k | b.Stray t .double k}.ncard + {k | b.InLiteral t .double k}.ncard) := by
  intro raw t b f
  have hb : b ∈ t.blocks := by decide +kernel
  have hkind : b.kind ≠ .comment := by decide
  have hf : f ∈ pairing t.blocks := by decide +kernel
  have hliteral : Walk.Visits t ⟨.inside ⟨.expression, 0, t.drop 2⟩, ⟨8, t.drop 8⟩, ⟨0, 0⟩⟩ :=
    (Walk.visits_start t).step rfl |>.step rfl |>.step rfl |>.step rfl |>.step rfl |>.step rfl
      |>.step rfl
  have hvisits : Walk.Visits t ⟨.inside ⟨.expression, 0, t.drop 2⟩, ⟨9, t.drop 9⟩, ⟨0, 0⟩⟩ :=
    hliteral.step rfl
  exact ⟨hb, hkind, ⟨⟨_, _, _, hvisits, rfl⟩, rfl, rfl⟩, hf,
    (quote_reported_iff hb hkind .double).1 ⟨f, hf, rfl, by decide +kernel⟩⟩

/-- Two double quotes on two lines, neither of which ends, are passed over in silence. -/
theorem Block.stray_not_reported :
    let raw : Text := [' ', '"', 'a', '\n', '"', 'b', ' ']
    let t := BlockKind.expression.write raw
    let b := Block.ofRaw .expression 0 raw
    b ∈ t.blocks ∧ b.Stray t .double 3 ∧ b.Stray t .double 6 ∧ pairing t.blocks = [] := by
  intro raw t b
  have hfirst : Walk.Visits t ⟨.inside ⟨.expression, 0, t.drop 2⟩, ⟨3, t.drop 3⟩, ⟨0, 0⟩⟩ :=
    (Walk.visits_start t).step rfl |>.step rfl
  have hsecond : Walk.Visits t ⟨.inside ⟨.expression, 0, t.drop 2⟩, ⟨6, t.drop 6⟩, ⟨5, 0⟩⟩ :=
    hfirst.step rfl |>.step rfl |>.step rfl |>.step rfl |>.step rfl
  exact ⟨by decide +kernel, ⟨⟨_, _, _, hfirst, rfl⟩, rfl, rfl⟩,
    ⟨⟨_, _, _, hsecond, rfl⟩, rfl, rfl⟩, by decide +kernel⟩

end TemplateAssist
