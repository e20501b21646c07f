import TemplateAssist.Cursor.Context
import TemplateAssist.Proofs.Block.Order
import TemplateAssist.Proofs.Cursor.OpenBlock
import TemplateAssist.Proofs.Text.Trailing

/-!
# The cursor in a block

`Text.contextAt` looks at the line before the cursor only, and goes back from the cursor to find the
opener that is still open.  `Text.blocks` reads the whole text from its start.  This file proves
that they agree: as long as what was typed since the opener of a block has no delimiters and no line
ends in it, the cursor is found to be in that block.

* `loneBrace?_append_opener` — after an opener there is no lone brace.
* `openBlock?_eq` — the leftmost opener that nothing closes is found, however much of the line
  stands before it.
* `Block.WellPlaced.lineBefore` — what the line of the cursor is, if the cursor stands in a block.
* `Text.exists_blocking_after` — the earlier openers on that line are not open any more, since
  reading has come upon a closer after each of them.
-/

set_option autoImplicit false

namespace TemplateAssist

/-! ## After an opener -/

theorem BlockKind.exists_opener_eq (kind : BlockKind) :
    ∃ c, kind.opener = ['{'] ++ [c] ∧ isWordChar c = false := by
  cases kind <;> exact ⟨_, rfl, by decide⟩

theorem Text.trailingWord_append (u : Text) {c : Char} {word : Text} (hc : isWordChar c = false)
    (hword : ∀ d ∈ word, isWordChar d = true) : trailingWord (u ++ [c] ++ word) = word := by
  rw [trailingWord, trailing_append _ hword, trailing_concat u hc]
  rfl

/-- A lone brace is looked for before the word at the end of a line. -/
theorem loneBrace?_append_word (u : Text) {c : Char} {word : Text} (hc : isWordChar c = false)
    (hword : ∀ d ∈ word, isWordChar d = true) :
    loneBrace? (u ++ [c] ++ word)
      = if (Text.trailing (· == '{') (u ++ [c])).length = 1 then some (u.length, word)
        else none := by
  have hhead : Text.beforeTrailing isWordChar (u ++ [c] ++ word) = u ++ [c] := by
    rw [Text.beforeTrailing_append _ hword, Text.beforeTrailing_concat u hc]
  rw [loneBrace?, Text.trailingWord_append u hc hword, hhead, List.length_append,
    List.length_singleton, Nat.add_sub_cancel]

/-- After an opener there is no lone brace, unless one is typed. -/
theorem loneBrace?_append_opener (u : Text) (kind : BlockKind) {mid : Text} (h : '{' ∉ mid) :
    loneBrace? (u ++ (kind.opener ++ mid)) = none := by
  have hmid := Text.beforeTrailing_append_trailing isWordChar mid
  have hword : ∀ c ∈ mid.trailing isWordChar, isWordChar c = true :=
    fun c hc ↦ Text.of_mem_trailing hc
  rcases Text.beforeTrailing_eq_nil_or_concat isWordChar mid with hnil | ⟨w, d, heq, hd⟩
  · -- Only a word was typed: the opener is what stands before it.
    obtain ⟨c, hopener, hc⟩ := kind.exists_opener_eq
    rw [hnil, List.nil_append] at hmid
    have hline : u ++ (kind.opener ++ mid) = u ++ ['{'] ++ [c] ++ mid.trailing isWordChar := by
      rw [hmid, hopener, List.append_assoc, List.append_assoc, List.append_assoc]
    rw [hline, loneBrace?_append_word _ hc hword, if_neg]
    by_cases hbrace : c = '{'
    · rw [hbrace, List.append_assoc, Text.trailing_append _ (by simp), List.length_append,
        List.length_append, List.length_singleton]
      omega
    · rw [Text.trailing_concat _ (by simpa using hbrace)]
      exact Nat.zero_ne_one
  · have hbrace : d ≠ '{' := by
      rintro rfl
      refine h ?_
      rw [← hmid, heq]
      simp
    have hline : u ++ (kind.opener ++ mid)
        = u ++ (kind.opener ++ w) ++ [d] ++ mid.trailing isWordChar := by
      rw [heq] at hmid
      rw [List.append_assoc, List.append_assoc, List.append_assoc, ← List.append_assoc w, hmid]
    rw [hline, loneBrace?_append_word _ hd hword, if_neg]
    rw [Text.trailing_concat _ (by simpa using hbrace)]
    exact Nat.zero_ne_one

/-! ## The opener that is still open -/

/-- **The open block of a line** is that of an opener after which nothing blocks, if after each
earlier opener something does. -/
theorem openBlock?_eq {line u mid : Text} {kind : BlockKind}
    (hline : line = u ++ (kind.opener ++ mid)) (hmid : ∀ c ∈ mid, isBlocking c = false)
    (hearlier : ∀ k other, k < u.length → line.HasAt k (BlockKind.opener other) →
      ∃ c ∈ line.drop (k + 2), isBlocking c = true) :
    openBlock? line = some (kind, mid.trimLeft) := by
  have hdrop : line.drop u.length = kind.opener ++ mid := by rw [hline, List.drop_left]
  have hopen : line.OpensAt u.length :=
    Text.opensAt_iff.2 ⟨kind, mid, hdrop, fun c hc ↦ isBlocking_eq_false_iff.1 (hmid c hc)⟩
  have hleast : IsLeast {a | line.OpensAt a} u.length := by
    refine ⟨hopen, fun k hk ↦ Nat.le_of_not_lt fun hlt ↦ ?_⟩
    obtain ⟨⟨other, hat⟩, hnone⟩ := hk
    obtain ⟨c, hc, hblocking⟩ := hearlier k other hlt hat
    rw [isBlocking_eq_false_iff.2 (hnone c hc)] at hblocking
    cases hblocking
  rw [openBlock?_eq_leftmostOpen?, leftmostOpen?_eq_some_iff.2 ⟨_, hleast, hdrop⟩, Option.map_some]

/-- The first opener stands before the text after it. -/
theorem opener_append_suffix {t rest : Text} {kind : BlockKind}
    (h : firstOpener? t = some (kind, rest)) : kind.opener ++ rest <:+ t := by
  induction t with
  | nil => cases h
  | cons c t ih =>
    rw [firstOpener?] at h
    cases hopening : BlockKind.opening? (c :: t) with
    | none =>
      rw [hopening, Option.none_or] at h
      exact (ih h).trans (List.suffix_cons c t)
    | some found =>
      rw [hopening, Option.some_or] at h
      obtain rfl := Option.some.inj h
      exact ⟨[], (BlockKind.opening?_eq_some_iff.1 hopening).symm⟩

/-- What has been typed in the open block stands at the end of the line, after the opener and
blanks. -/
theorem exists_of_openBlock? {line content : Text} {kind : BlockKind}
    (h : openBlock? line = some (kind, content)) :
    ∃ pre : Text, (∀ c ∈ pre, isBlank c = true) ∧ kind.opener ++ (pre ++ content) <:+ line := by
  rw [openBlock?] at h
  obtain ⟨⟨kind', rest⟩, hfirst, heq⟩ := Option.map_eq_some_iff.1 h
  obtain ⟨rfl, rfl⟩ := Prod.mk.inj heq
  refine ⟨rest.takeWhile isBlank, fun c ↦ List.mem_takeWhile_imp, ?_⟩
  rw [Text.trimLeft, List.takeWhile_append_dropWhile]
  exact (opener_append_suffix hfirst).trans (List.drop_suffix _ _)

/-- What has been typed in the open block stands at the end of the line. -/
theorem openBlock?_suffix {line content : Text} {kind : BlockKind}
    (h : openBlock? line = some (kind, content)) : content <:+ line := by
  obtain ⟨pre, -, hsuffix⟩ := exists_of_openBlock? h
  exact ((List.suffix_append pre content).trans (List.suffix_append kind.opener _)).trans hsuffix

/-! ## The cursor in a block -/

/-- A block is seen as what it is; in an expression it may also be a property. -/
theorem blockContext_cases (kind : BlockKind) (content : Text) (closed : Bool) :
    blockContext kind content closed = .block kind content.trim closed ∨
      kind = .expression ∧ ∃ path word,
        blockContext kind content closed = .property path word closed := by
  unfold blockContext
  split
  · exact .inr ⟨rfl, _, _, rfl⟩
  · exact .inl rfl

theorem blockContext_eq_property_iff {kind : BlockKind} {content path word : Text}
    {seen closed : Bool} : blockContext kind content seen = .property path word closed ↔
      kind = .expression ∧ dottedAccess? content = some (path, word) ∧ seen = closed := by
  unfold blockContext
  split
  · next hdotted => simp [hdotted, and_assoc]
  · next hnone =>
    constructor
    · intro h
      cases h
    · rintro ⟨rfl, hdotted, -⟩
      exact absurd hdotted (hnone path word rfl)

/-- **The cursor is after a path** exactly when the open block of its line is an expression in which
a path and a dot were typed last. -/
theorem Text.contextWithin_eq_property_iff {settings : Settings} {t path word : Text} {pos : Nat}
    {closed : Bool} : t.contextWithin settings pos = .property path word closed ↔
      loneBrace? (t.lineBefore pos).2 = none ∧ closerAhead settings t pos .expression = closed ∧
        ∃ content, openBlock? (t.lineBefore pos).2 = some (.expression, content) ∧
          dottedAccess? content = some (path, word) := by
  simp only [contextWithin]
  cases hbrace : loneBrace? (t.lineBefore pos).2 with
  | some found => simp
  | none =>
    cases hopen : openBlock? (t.lineBefore pos).2 with
    | none => simp
    | some found =>
      obtain ⟨kind, content⟩ := found
      simp only [blockContext_eq_property_iff, true_and, Option.some.injEq, Prod.mk.injEq]
      constructor
      · rintro ⟨rfl, hdotted, hclosed⟩
        exact ⟨hclosed, content, ⟨rfl, rfl⟩, hdotted⟩
      · rintro ⟨hclosed, content', ⟨rfl, rfl⟩, hdotted⟩
        exact ⟨rfl, hdotted, hclosed⟩

/-- The closer of a block is seen from any place in the block that is near enough. -/
theorem Block.Placed.closerAhead {settings : Settings} {t : Text} {b : Block} {pos : Nat}
    (h : b.Placed t) (hpos : pos ≤ b.stop - 2) (hnear : b.stop - pos ≤ settings.closingLookahead) :
    closerAhead settings t pos b.kind = true := by
  obtain ⟨raw, heq, hat⟩ := h
  have hstop : b.stop = b.start + 2 + raw.length + 2 := congrArg Block.stop heq
  have hcloser := hat.right.right
  rw [b.kind.length_opener] at hcloser
  refine Text.find?_isSome_of_hasAt (hcloser.slice (by omega) ?_)
  rw [b.kind.length_closer]
  omega

/-- The line of a cursor in a block, if what was typed since the opener is on one line. -/
theorem Block.WellPlaced.lineBefore {t : Text} {b : Block} {pos : Nat} (h : b.WellPlaced t)
    (hstart : b.start + 2 ≤ pos) (hpos : pos ≤ t.length)
    (hline : '\n' ∉ t.slice (b.start + 2) pos) :
    (t.lineBefore pos).2 = Text.trailing (· ≠ '\n') (t.take b.start)
      ++ (b.kind.opener ++ t.slice (b.start + 2) pos) := by
  have htake : t.take pos
      = t.take b.start ++ (b.kind.opener ++ t.slice (b.start + 2) pos) := by
    rw [← t.take_append_slice hstart, ← t.take_append_slice (Nat.le_add_right b.start 2),
      h.opener, List.append_assoc]
  rw [Text.lineBefore_natCast hpos, htake, Text.trailing_append]
  intro c hc
  rcases List.mem_append.1 hc with hc | hc
  · have hopener : '\n' ∉ b.kind.opener := by cases b.kind <;> decide
    exact decide_eq_true fun heq ↦ hopener (heq ▸ hc)
  · exact decide_eq_true fun heq ↦ hline (heq ▸ hc)

/-- Nothing before a block on its line is still open: something blocks each opener there. -/
theorem Text.exists_blocking_after {t line u rest : Text} {b : Block} {start : Nat}
    (hb : b ∈ t.blocks) (hat : t.HasAt start line) (hline : line = u ++ rest)
    (hstart : start + u.length = b.start) {k : Nat} {kind : BlockKind} (hk : k < u.length)
    (hopener : line.HasAt k kind.opener) :
    ∃ c ∈ line.drop (k + 2), isBlocking c = true := by
  obtain ⟨j, hlo, hhi, hj⟩ := Text.exists_brace_between hb (hat.trans hopener) (by omega)
  refine ⟨'}', hat.mem_drop hj (by omega) ?_, rfl⟩
  rw [hline, List.length_append]
  omega

/-- What is seen at a cursor in a block is that block, with what was typed since its opener. -/
theorem Text.contextAt_eq_blockContext (settings : Settings) {t : Text} {b : Block} {pos : Nat}
    (hb : b ∈ t.blocks) (hstart : b.start + 2 ≤ pos) (hpos : pos ≤ t.length)
    (htyped : ∀ c ∈ t.slice (b.start + 2) pos, c ∉ ['\n', '{', '}', '%', '#']) :
    t.contextAt settings pos = blockContext b.kind (t.slice (b.start + 2) pos).trimLeft
      (closerAhead settings t pos b.kind) := by
  have hline := (placed_of_mem_blocks hb).wellPlaced.lineBefore hstart hpos
    fun hmem ↦ htyped _ hmem (by decide)
  have hlength := start_add_length_lineBefore hpos
  have hbrace : loneBrace? (t.lineBefore pos).2 = none := by
    rw [hline]
    exact loneBrace?_append_opener _ _ fun hmem ↦ htyped _ hmem (by decide)
  have hopen : openBlock? (t.lineBefore pos).2
      = some (b.kind, (t.slice (b.start + 2) pos).trimLeft) := by
    refine openBlock?_eq hline (fun c hc ↦ ?_) fun k other hk hat ↦
      exists_blocking_after hb (hasAt_lineBefore hpos) hline ?_ hk hat
    · have hc := htyped c hc
      simp only [List.mem_cons, List.not_mem_nil, not_or] at hc
      simp [isBlocking, hc]
    · rw [hline, List.length_append, List.length_append, b.kind.length_opener, slice,
        List.length_drop, List.length_take_of_le hpos] at hlength
      omega
  have hclamp : t.clamp pos = pos := Nat.min_eq_left hpos
  rw [contextAt, hclamp, contextWithin]
  simp only [hbrace, hopen]

/-- **The cursor is found to be in the block in which it stands**, as long as neither delimiters
nor line ends have been typed since its opener. -/
theorem Text.contextAt_of_mem_blocks (settings : Settings) {t : Text} {b : Block} {pos : Nat}
    (hb : b ∈ t.blocks) (hstart : b.start + 2 ≤ pos) (hstop : pos ≤ b.stop - 2)
    (htyped : ∀ c ∈ t.slice (b.start + 2) pos, c ∉ ['\n', '{', '}', '%', '#']) :
    ∃ closed, (b.stop - pos ≤ settings.closingLookahead → closed = true) ∧
      (t.contextAt settings pos = .block b.kind (t.slice (b.start + 2) pos).trim closed ∨
        b.kind = .expression ∧ ∃ path word,
          t.contextAt settings pos = .property path word closed) := by
  have hplaced := placed_of_mem_blocks hb
  have hpos : pos ≤ t.length := by
    have hle := hplaced.wellPlaced.stop_le
    omega
  have htrim : (t.slice (b.start + 2) pos).trimLeft.trim = (t.slice (b.start + 2) pos).trim :=
    congrArg trimRight (List.dropWhile_idempotent _ _)
  refine ⟨closerAhead settings t pos b.kind, hplaced.closerAhead hstop, ?_⟩
  rw [contextAt_eq_blockContext settings hb hstart hpos htyped, ← htrim]
  exact blockContext_cases _ _ _

/-- In `{% a }} { {{ b.c }}`, with the cursor after the `b`: the statement is closed wrongly, and
the brace before the expression opens nothing. -/
theorem Text.contextAt_of_mem_blocks_afterMismatch :
    let t : Text := BlockKind.statement.opener ++ " a ".toList ++ BlockKind.expression.closer
      ++ [' ', '{', ' '] ++ BlockKind.expression.spaced "b.c".toList
    let b : Block := ⟨.expression, 10, 19, "b.c".toList, 13⟩
    t.contextAt {} 14 = .block .expression ['b'] true ∧
      ∃ closed, (b.stop - 14 ≤ 50 → closed = true) ∧
        (t.contextAt {} 14 = .block b.kind (t.slice (b.start + 2) 14).trim closed ∨
          b.kind = .expression ∧ ∃ path word, t.contextAt {} 14 = .property path word closed) := by
  intro t b
  have hb : b ∈ t.blocks := by decide +kernel
  have htyped : ∀ c ∈ t.slice (b.start + 2) 14, c ∉ ['\n', '{', '}', '%', '#'] := by
    rw [show t.slice (b.start + 2) 14 = [' ', 'b'] from rfl]
    simp
  exact ⟨by decide +kernel, contextAt_of_mem_blocks {} hb (by decide) (by decide) htyped⟩

end TemplateAssist
