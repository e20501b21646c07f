import TemplateAssist.Proofs.Cursor.Context
import TemplateAssist.Proofs.Cursor.Path

/-!
# What stands before the cursor

A context is found by going back along the line of the cursor, with blanks cut off on the way, and
its offsets are first counted from the start of that line.  Still, what it says can be read off the
text that ends at the cursor: `Context.Anchored` says how for each kind of context, and
`Text.contextWithin_anchored` that it is so at every cursor.

* `exists_of_loneBrace?` — a brace that is alone, and the word after it up to the end of the line;
* `exists_of_openBlock?` — an opener, blanks, and what has been typed since;
* `dottedAccess?_sound` — a path, a dot, and a word or blanks.
-/

set_option autoImplicit false

namespace TemplateAssist

/-- What a context says stands in the text before the cursor. -/
inductive Context.Anchored (t : Text) (cursor : Nat) : Context → Prop where
  | prose : Anchored t cursor .prose
  /-- A lone brace is followed by the word up to the cursor, and no brace comes before it. -/
  | brace {word : Text} {start : Nat} (slice_eq : t.slice start cursor = '{' :: word)
      (word_chars : ∀ c ∈ word, isWordChar c = true)
      (alone : (t.take start).getLast? ≠ some '{') :
      Anchored t cursor (.brace word start cursor)
  /-- What has been typed in a block comes after its opener, without the blanks at either end. -/
  | block {kind : BlockKind} {typed pre post : Text} {closed : Bool} (trim_eq : typed.trim = typed)
      (pre_blank : ∀ c ∈ pre, isBlank c = true) (post_blank : ∀ c ∈ post, isBlank c = true)
      (suffix : kind.opener ++ (pre ++ (typed ++ post)) <:+ t.take cursor) :
      Anchored t cursor (.block kind typed closed)
  /-- A path is followed by a dot, and that by the word being typed, or by blanks if there is
  none. -/
  | property {path typed post : Text} {closed : Bool} (isPath : IsPath path)
      (typed_chars : ∀ c ∈ typed, isWordChar c = true)
      (post_blank : ∀ c ∈ post, isBlank c = true) (word_or_blanks : typed = [] ∨ post = [])
      (suffix : path ++ '.' :: (typed ++ post) <:+ t.take cursor) :
      Anchored t cursor (.property path typed closed)

/-! ## A lone brace -/

/-- A lone brace stands before the word at the end of its line, and after no other brace. -/
theorem exists_of_loneBrace? {line word : Text} {brace : Nat}
    (h : loneBrace? line = some (brace, word)) :
    ∃ u : Text, line = u ++ '{' :: word ∧ u.length = brace ∧ u.getLast? ≠ some '{' ∧
      ∀ c ∈ word, isWordChar c = true := by
  obtain ⟨hone, hfound⟩ := Option.ite_none_right_eq_some.1 h
  obtain ⟨rfl, rfl⟩ := Prod.mk.inj (Option.some.inj hfound)
  have hline := Text.beforeTrailing_append_trailing isWordChar line
  have hhead := Text.beforeTrailing_append_trailing (· == '{') (line.beforeTrailing isWordChar)
  have hbrace : Text.trailing (· == '{') (line.beforeTrailing isWordChar) = ['{'] := by
    obtain ⟨c, hc⟩ := List.length_eq_one_iff.1 hone
    have hmem : c ∈ Text.trailing (· == '{') (line.beforeTrailing isWordChar) := by simp [hc]
    have heq : c = '{' := by simpa using Text.of_mem_trailing hmem
    rw [hc, heq]
  rw [hbrace] at hhead
  refine ⟨Text.beforeTrailing (· == '{') (line.beforeTrailing isWordChar), ?_, ?_,
    Text.getLast?_beforeTrailing_ne _ (beq_self_eq_true '{'), fun c ↦ Text.of_mem_trailing⟩
  · nth_rewrite 1 [← hline, ← hhead]
    simp [Text.trailingWord]
  · rw [← hhead, List.length_append, List.length_singleton, Nat.add_sub_cancel, hhead]

/-- A lone brace on the line of the cursor, with its offset in the text. -/
theorem Text.brace_anchored {t word : Text} {pos brace : Nat} (hpos : pos ≤ t.length)
    (h : loneBrace? (t.lineBefore pos).2 = some (brace, word)) :
    (Context.brace word ((t.lineBefore pos).1 + brace) pos).Anchored t pos := by
  obtain ⟨u, hline, hlength, hu, hword⟩ := exists_of_loneBrace? h
  have hbefore : (t.take (t.lineBefore pos).1).length = (t.lineBefore pos).1 := by
    have hsum := start_add_length_lineBefore hpos
    rw [List.length_take]
    omega
  have htake : t.take pos = t.take (t.lineBefore pos).1 ++ u ++ '{' :: word := by
    rw [List.append_assoc, ← hline, take_lineStart hpos, lineBefore_natCast hpos,
      beforeTrailing_append_trailing]
  have hstart : (t.take (t.lineBefore pos).1 ++ u).length = (t.lineBefore pos).1 + brace := by
    rw [List.length_append, hbefore, hlength]
  refine .brace ?_ hword ?_
  · rw [slice, htake, List.drop_left' hstart]
  · have hle : (t.lineBefore pos).1 + brace ≤ pos := by
      have hsum := congrArg List.length htake
      rw [List.length_append, hstart, List.length_take_of_le hpos] at hsum
      omega
    have hhead : t.take ((t.lineBefore pos).1 + brace) = t.take (t.lineBefore pos).1 ++ u := by
      rw [← Nat.min_eq_left hle, ← List.take_take, htake, List.take_left' hstart]
    rw [hhead]
    -- before the line there is nothing, or a newline
    rcases List.eq_nil_or_concat' u with rfl | ⟨v, c, rfl⟩
    · rw [List.append_nil, take_lineStart hpos]
      exact getLast?_beforeTrailing_ne _ (by decide)
    · simpa using hu

/-! ## An open block -/

theorem blockContext_anchored {t content : Text} {pos : Nat} {kind : BlockKind} {pre : Text}
    (hpre : ∀ c ∈ pre, isBlank c = true)
    (h : kind.opener ++ (pre ++ content) <:+ t.take pos) (closed : Bool) :
    (blockContext kind content closed).Anchored t pos := by
  unfold blockContext
  split
  · next path word hdotted =>
    obtain ⟨u, post, hcontent, -, hpath, hword, hpost, hend⟩ := dottedAccess?_sound hdotted
    refine .property hpath hword hpost hend (List.IsSuffix.trans ?_ h)
    exact ⟨BlockKind.expression.opener ++ (pre ++ u), by simp [hcontent]⟩
  · obtain ⟨blanks, post, hcontent, hblanks, hpost⟩ := content.exists_blanks_trim
    refine .block content.trim_trim (List.forall_mem_append.2 ⟨hpre, hblanks⟩) hpost ?_
    rwa [List.append_assoc, ← hcontent]

/-- **Every context is anchored at its cursor.** -/
theorem Text.contextWithin_anchored (settings : Settings) {t : Text} {pos : Nat}
    (hpos : pos ≤ t.length) : (t.contextWithin settings pos).Anchored t pos := by
  simp only [contextWithin]
  cases hbrace : loneBrace? (t.lineBefore pos).2 with
  | some found => exact brace_anchored hpos hbrace
  | none =>
    cases hopen : openBlock? (t.lineBefore pos).2 with
    | none => exact .prose
    | some found =>
      obtain ⟨pre, hpre, hsuffix⟩ := exists_of_openBlock? hopen
      refine blockContext_anchored hpre (hsuffix.trans ?_) _
      rw [lineBefore_natCast hpos]
      exact List.rtakeWhile_suffix _ _

end TemplateAssist
