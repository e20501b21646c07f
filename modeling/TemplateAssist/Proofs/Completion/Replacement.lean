import TemplateAssist.Proofs.Cursor.Anchor
import TemplateAssist.Proofs.Cursor.Neighbourhood

/-!
# What a completion replaces

Candidates are matched against what the context says has been typed.  In a block that is all of its
content so far, without the blanks around it; but what an accepted candidate replaces there is the
word right before the cursor.  A blank makes the two differ: after it nothing is replaced, and later
only what was typed since.

* `Context.Anchored.trailingWord_eq_iff` — where the word before the cursor is all that was typed;
* `Context.Anchored.trailingWord_of_suffix` — where it is what was typed since the last blank;
* `Completion.of_replaced`, `Completion.replaced_onLine` — what is replaced in a context;
* `Completion.cases_of_inContext` — what a completion can be;
* `complete_replaces_typed_iff`, `contextAt_complete_anchored` — what every completion replaces.
-/

set_option autoImplicit false

namespace TemplateAssist

/-! ## The word before the cursor -/

namespace Text

variable {t : Text} {pos : Nat}

theorem natCast_clamp (t : Text) (pos : Int) : (t.clamp pos : Int) = max 0 (min pos t.length) := by
  rw [clamp]
  omega

theorem slice_of_suffix {w : Text} (hpos : pos ≤ t.length) (h : w <:+ t.take pos) :
    t.slice (pos - w.length) pos = w := by
  have hdrop := List.suffix_iff_eq_drop.1 h
  rw [List.length_take_of_le hpos] at hdrop
  exact hdrop.symm

/-- The word before the cursor is on the line of the cursor. -/
theorem trailingWord_lineBefore (hpos : pos ≤ t.length) :
    (t.lineBefore pos).2.trailingWord = trailingWord (t.take pos) := by
  rw [lineBefore_natCast hpos]
  exact trailing_trailing _ fun c hc ↦ decide_eq_true (ne_of_isWordChar hc (by decide))

end Text

theorem isWordChar_of_isBlank {c : Char} (h : isBlank c = true) : isWordChar c = false := by
  rw [Bool.eq_false_iff]
  intro hword
  rw [isBlank_of_isWordChar hword] at h
  cases h

namespace Context

/-- A context has just the parts that belong to its name. -/
theorem isSome_parts_iff (context : Context) :
    (context.closed?.isSome = true ↔
      context.name ∈ ["statement", "expression", "comment", "property_access"]) ∧
    (context.path?.isSome = true ↔ context.name = "property_access") ∧
    (context.start?.isSome = true ↔ context.name = "partial") ∧
    (context.stop?.isSome = true ↔ context.name = "partial") := by
  cases context with
  | block kind typed closed =>
    cases kind <;> simp [closed?, path?, start?, stop?, name, BlockKind.name]
  | _ => simp [closed?, path?, start?, stop?, name]

variable {t : Text} {cursor : Nat} {context : Context}

/-- In a block and after a path, other characters than those of words stand before what has been
typed, and at most blanks after it. -/
theorem Anchored.exists_around (h : context.Anchored t cursor)
    (hclosed : context.closed?.isSome = true) :
    ∃ sep post : Text, sep ++ (context.typed ++ post) <:+ t.take cursor ∧ sep ≠ [] ∧
      (∀ c ∈ sep, isWordChar c = false) ∧ ∀ c ∈ post, isWordChar c = false := by
  cases h with
  | prose => cases hclosed
  | brace => cases hclosed
  | @block kind typed pre post closed _ hpre hpost hsuffix =>
    obtain ⟨sign, hopener, hsign⟩ := kind.exists_opener_eq
    have hbrace : isWordChar '{' = false := by decide
    refine ⟨kind.opener ++ pre, post, ?_, by simp [hopener], ?_, fun c hc ↦
      isWordChar_of_isBlank (hpost c hc)⟩
    · rwa [List.append_assoc]
    · refine List.forall_mem_append.2 ⟨?_, fun c hc ↦ isWordChar_of_isBlank (hpre c hc)⟩
      simp [hopener, hbrace, hsign]
  | @property path typed post closed _ _ hpost _ hsuffix =>
    exact ⟨['.'], post, (List.suffix_append path _).trans hsuffix, List.cons_ne_nil _ _,
      by simpa using isWordChar_dot, fun c hc ↦ isWordChar_of_isBlank (hpost c hc)⟩

/-- What has been typed in a block or after a path is the word before the cursor exactly when it
has no other characters in it and nothing was typed after it. -/
theorem Anchored.trailingWord_eq_iff (h : context.Anchored t cursor)
    (hclosed : context.closed?.isSome = true) :
    Text.trailingWord (t.take cursor) = context.typed ↔
      (∀ c ∈ context.typed, isWordChar c = true) ∧ context.typed <:+ t.take cursor := by
  obtain ⟨sep, post, hsuffix, hne, hsep, hpost⟩ := h.exists_around hclosed
  exact Text.trailing_eq_iff hsuffix hne hsep hpost

/-- After blanks there is no word. -/
theorem Anchored.trailingWord_of_not_suffix (h : context.Anchored t cursor)
    (hclosed : context.closed?.isSome = true) (hblank : ¬context.typed <:+ t.take cursor) :
    Text.trailingWord (t.take cursor) = [] := by
  obtain ⟨sep, post, hsuffix, -, -, hpost⟩ := h.exists_around hclosed
  exact Text.trailing_eq_nil ((List.suffix_append sep _).trans hsuffix) hpost hblank

/-- With no blanks after it, the last part of what has been typed is the word before the cursor, as
long as it is a word. -/
theorem Anchored.trailingWord_of_suffix (h : context.Anchored t cursor)
    (hclosed : context.closed?.isSome = true) (hsuffix : context.typed <:+ t.take cursor)
    (hlast : ∀ c ∈ context.typed.trailing (!isBlank ·), isWordChar c = true) :
    Text.trailingWord (t.take cursor) = context.typed.trailing (!isBlank ·) := by
  have hcut := Text.beforeTrailing_append_trailing (!isBlank ·) context.typed
  rcases Text.beforeTrailing_eq_nil_or_concat (!isBlank ·) context.typed with
    hnil | ⟨u, c, heq, hc⟩
  · rw [hnil, List.nil_append] at hcut
    rw [hcut] at hlast ⊢
    exact (h.trailingWord_eq_iff hclosed).2 ⟨hlast, hsuffix⟩
  · obtain ⟨v, hv⟩ := hsuffix
    have hblank : isWordChar c = false := isWordChar_of_isBlank (by simpa using hc)
    have hbefore : t.take cursor = v ++ u ++ [c] ++ context.typed.trailing (!isBlank ·) := by
      rw [← hv, List.append_assoc v, ← heq, List.append_assoc, hcut]
    rw [hbefore]
    exact Text.trailingWord_append _ hblank hlast

/-- After a path, what has been typed is the word before the cursor. -/
theorem Anchored.trailingWord_property {path typed : Text} {closed : Bool}
    (h : (Context.property path typed closed).Anchored t cursor) :
    Text.trailingWord (t.take cursor) = typed := by
  refine (h.trailingWord_eq_iff rfl).2 ?_
  cases h with
  | property _ hword _ hend hsuffix =>
    refine ⟨hword, ?_⟩
    rcases hend with rfl | rfl
    · exact List.nil_suffix
    · rw [List.append_nil] at hsuffix
      exact (List.suffix_cons '.' typed).trans ((List.suffix_append path _).trans hsuffix)

end Context

/-! ## What is replaced in a context -/

namespace Completion

variable {t : Text} {cursor : Nat}

/-- In a block and after a path, the word before the cursor is replaced. -/
theorem of_replaced {context : Context} (hcursor : cursor ≤ t.length)
    (h : context.Anchored t cursor) (hclosed : context.closed?.isSome = true) :
    (replaced t cursor context).of t = Text.trailingWord (t.take cursor) := by
  have hword := Text.slice_of_suffix hcursor (List.rtakeWhile_suffix isWordChar (t.take cursor))
  cases context with
  | prose => cases hclosed
  | brace word start stop => cases hclosed
  | block kind typed closed =>
    rw [replaced, Text.trailingWord_lineBefore hcursor]
    exact hword
  | property path typed closed =>
    rw [replaced, ← h.trailingWord_property]
    exact hword

/-- What is replaced ends at the cursor, and has no newline in it. -/
theorem replaced_onLine {context : Context} (hcursor : cursor ≤ t.length)
    (h : context.Anchored t cursor) :
    (replaced t cursor context).start ≤ cursor ∧ (replaced t cursor context).stop = cursor ∧
      '\n' ∉ (replaced t cursor context).of t := by
  have hnewline : ∀ word : Text, (∀ c ∈ word, isWordChar c = true) → '\n' ∉ word :=
    fun word hword hmem ↦ ne_of_isWordChar (hword _ hmem) (by decide) rfl
  have hword : '\n' ∉ Text.trailingWord (t.take cursor) :=
    hnewline _ fun c ↦ Text.of_mem_trailing
  cases h with
  | prose => exact ⟨le_rfl, rfl, by simp [replaced, Span.of, Text.slice]⟩
  | @brace word start hslice hchars =>
    refine ⟨?_, rfl, by simpa [replaced, Span.of, hslice] using hnewline word hchars⟩
    have hlength := congrArg List.length hslice
    rw [Text.slice, List.length_drop, List.length_take_of_le hcursor, List.length_cons] at hlength
    exact (Nat.lt_of_sub_pos (hlength ▸ Nat.succ_pos _)).le
  | block htrim hpre hpost hsuffix =>
    refine ⟨Nat.sub_le _ _, rfl, ?_⟩
    rwa [of_replaced hcursor (.block htrim hpre hpost hsuffix) rfl]
  | property hpath hchars hpost hend hsuffix =>
    refine ⟨Nat.sub_le _ _, rfl, ?_⟩
    rwa [of_replaced hcursor (.property hpath hchars hpost hend hsuffix) rfl]

/-! ## What a completion can be -/

theorem eq_of_offer {settings : Settings} {dotTyped : Bool} {typed : Text}
    {candidates : List Candidate} {span : Span Nat} {completion : Completion}
    (h : offer settings dotTyped typed candidates span = some completion) :
    completion.span = span ∧ completion.candidates
      = (candidates.filter (·.isMatch typed)).take settings.maxCandidates := by
  obtain ⟨-, hsome⟩ := Option.ite_none_left_eq_some.1 h
  obtain rfl := Option.some.inj hsome
  exact ⟨rfl, rfl⟩

/-- A completion is that of the context, unless a dot was typed and a path is found before it that
the context does not have. -/
theorem cases_of_inContext {settings : Settings} {tree : VariableTree} {context : Context}
    {completion : Completion} (h : inContext settings tree t cursor context = some completion) :
    (dotBefore t cursor = true ∧ ∃ path, dotPath? settings t cursor context = some path ∧
      completion.span = ⟨cursor, cursor⟩ ∧ completion.candidates
        = ((tree.properties path).filter (·.isMatch [])).take settings.maxCandidates) ∨
    ((dotBefore t cursor = true → dotPath? settings t cursor context = none) ∧
      completion.span = replaced t cursor context ∧ completion.candidates
        = ((pool tree context).filter (·.isMatch context.typed)).take settings.maxCandidates) := by
  rw [inContext] at h
  split at h
  · next path hpath =>
    obtain ⟨hdot, hpath⟩ := Option.ite_none_right_eq_some.1 hpath
    exact .inl ⟨hdot, path, hpath, eq_of_offer h⟩
  · next hnone =>
    refine .inr ⟨fun hdot ↦ ?_, eq_of_offer h⟩
    rwa [if_pos hdot] at hnone

theorem inContext_of_complete {settings : Settings} {tree : VariableTree} {pos : Int}
    {completion : Completion} (h : complete settings tree t pos = some completion) :
    inContext settings tree t (t.clamp pos) (t.contextAt settings pos) = some completion := by
  rw [complete_eq_inContext] at h
  rw [Text.contextAt]
  split at h
  · cases h
  · exact h

/-- What a completion replaces ends at the cursor, and has no newline in it. -/
theorem onLine_of_inContext {settings : Settings} {tree : VariableTree} {context : Context}
    {completion : Completion} (hcursor : cursor ≤ t.length) (hanchored : context.Anchored t cursor)
    (h : inContext settings tree t cursor context = some completion) :
    completion.span.start ≤ cursor ∧ completion.span.stop = cursor ∧
      '\n' ∉ completion.span.of t := by
  rcases cases_of_inContext h with ⟨-, path, -, hspan, -⟩ | ⟨-, hspan, -⟩
  · rw [hspan]
    exact ⟨le_rfl, rfl, by simp [Span.of, Text.slice]⟩
  · rw [hspan]
    exact replaced_onLine hcursor hanchored

end Completion

/-! ## What a completion replaces -/

/-- **What is replaced, and what has been typed.**  The candidates of a completion are matched
against all that has been typed in a statement, in an expression or after a path.  After a path this
is replaced.  Elsewhere nothing is replaced after a blank; otherwise what was typed since the last
blank is, if it is a word, and so all that has been typed is replaced exactly when there was no
blank in it or after it. -/
theorem complete_replaces_typed_iff {settings : Settings} {tree : VariableTree} {t : Text}
    {pos : Int} {completion : Completion} (h : complete settings tree t pos = some completion)
    (hname : (t.contextAt settings pos).name ∈ ["statement", "expression", "property_access"])
    (hdot : dotBefore t (t.clamp pos) = true →
      Completion.dotPath? settings t (t.clamp pos) (t.contextAt settings pos) = none) :
    let before := t.take (t.clamp pos)
    let context := t.contextAt settings pos
    let last := context.typed.trailing (!isBlank ·)
    (∀ candidate ∈ completion.candidates, candidate.isMatch context.typed = true) ∧
    completion.span.stop = t.clamp pos ∧
    (context.name = "property_access" → completion.span.of t = context.typed) ∧
    (¬context.typed <:+ before → completion.span.of t = []) ∧
    (context.typed <:+ before → (∀ c ∈ last, isWordChar c = true) → completion.span.of t = last) ∧
    ((∀ c ∈ last, isWordChar c = true) → (completion.span.of t = context.typed ↔
      (∀ c ∈ context.typed, isBlank c = false) ∧ context.typed <:+ before)) := by
  have hcursor : t.clamp pos ≤ t.length := t.clamp_le pos
  have hin := Completion.inContext_of_complete h
  have hanchored : (t.contextAt settings pos).Anchored t (t.clamp pos) :=
    Text.contextWithin_anchored settings hcursor
  generalize t.contextAt settings pos = context at *
  have hclosed : context.closed?.isSome = true := by
    rw [context.isSome_parts_iff.1]
    simp only [List.mem_cons, List.not_mem_nil, or_false] at hname ⊢
    rcases hname with h | h | h <;> simp [h]
  rcases Completion.cases_of_inContext hin with ⟨htyped, path, hpath, -⟩ | ⟨-, hreplaced, hfound⟩
  · rw [hdot htyped] at hpath
    cases hpath
  · have hspan : completion.span.of t = Text.trailingWord (t.take (t.clamp pos)) := by
      rw [hreplaced, Completion.of_replaced hcursor hanchored hclosed]
    refine ⟨fun candidate hmem ↦ ?_, (Completion.onLine_of_inContext hcursor hanchored hin).2.1,
      fun hproperty ↦ ?_, fun hblank ↦ ?_, fun hsuffix hlast ↦ ?_, fun hlast ↦ ?_⟩
    · rw [hfound] at hmem
      exact (List.mem_filter.1 (List.mem_of_mem_take hmem)).2
    · have hpath := context.isSome_parts_iff.2.1.2 hproperty
      rw [hspan]
      cases context with
      | property path typed closed => exact hanchored.trailingWord_property
      | _ => cases hpath
    · rw [hspan, hanchored.trailingWord_of_not_suffix hclosed hblank]
    · rw [hspan, hanchored.trailingWord_of_suffix hclosed hsuffix hlast]
    · rw [hspan, hanchored.trailingWord_eq_iff hclosed, and_congr_left_iff]
      intro hsuffix
      refine ⟨fun hword c hc ↦ isBlank_of_isWordChar (hword c hc), fun hblank c hc ↦ hlast c ?_⟩
      have hall : context.typed.trailing (!isBlank ·) = context.typed :=
        List.rtakeWhile_eq_self_iff.2 fun d hd ↦ by simp [hblank d hd]
      rwa [hall]

/-- In an expression where `UP` has been typed after two blanks. -/
theorem complete_replaces_typed_iff_upper :
    let t : Text := BlockKind.expression.opener ++ "  UP".toList
    let upper : Candidate :=
      { label := "upper".toList, kind := .function, insertion := "upper".toList,
        detail := "Convert to uppercase" }
    let completion : Completion := ⟨⟨4, 6⟩, [upper]⟩
    t.contextAt {} 6 = .block .expression "UP".toList false ∧
      complete {} ⟨[]⟩ t 6 = some completion ∧ completion.span.of t = "UP".toList := by
  intro t upper completion
  have hcontext : t.contextAt {} 6 = .block .expression "UP".toList false := by decide +kernel
  have hcomplete : complete {} ⟨[]⟩ t 6 = some completion := by decide +kernel
  have hname : (t.contextAt {} 6).name ∈ ["statement", "expression", "property_access"] := by
    rw [hcontext]
    decide
  have hdot : dotBefore t (t.clamp 6) = false := by decide
  obtain ⟨-, -, -, -, -, htyped⟩ := complete_replaces_typed_iff hcomplete hname fun htrue ↦
    absurd htrue (by rw [hdot]; exact Bool.false_ne_true)
  rw [hcontext] at htyped
  have hword : IsWord "UP".toList := by decide
  have hlast := (htyped hword.2).2 ⟨fun c hc ↦ isBlank_of_isWordChar (hword.2 c hc), by decide⟩
  exact ⟨hcontext, hcomplete, hlast⟩

/-- After a blank, what was typed still finds its candidate, which is then put beside it and not in
its place; and a candidate with a blank in it is put in the place of its last part only. -/
theorem complete_keeps_typed :
    let t : Text := BlockKind.expression.opener ++ " up ".toList
    let upper : Candidate :=
      { label := "upper".toList, kind := .function, insertion := "upper".toList,
        detail := "Convert to uppercase" }
    let u : Text := BlockKind.expression.opener ++ " first n".toList
    let firstName : Candidate :=
      { label := "first name".toList, kind := .variable, insertion := "first name".toList,
        detail := "Given name" }
    (t.contextAt {} 6 = .block .expression "up".toList false ∧
      dotBefore t (t.clamp 6) = false ∧
      complete {} ⟨[]⟩ t 6 = some ⟨⟨6, 6⟩, [upper]⟩ ∧
      Span.of ⟨6, 6⟩ t ≠ (t.contextAt {} 6).typed) ∧
    u.contextAt {} 10 = .block .expression "first n".toList false ∧
      dotBefore u (u.clamp 10) = false ∧
      complete {} ⟨[("first name".toList, .leaf "Given name")]⟩ u 10
        = some ⟨⟨9, 10⟩, [firstName]⟩ ∧
      Span.of ⟨9, 10⟩ u ≠ (u.contextAt {} 10).typed := by
  decide +kernel

/-- Signs have the same effect: of `user-n` only the `n` is replaced. -/
theorem complete_keeps_signs :
    let t : Text := BlockKind.expression.opener ++ " user-n".toList
    let userName : Candidate :=
      { label := "user-name".toList, kind := .variable, insertion := "user-name".toList,
        detail := "Login" }
    t.contextAt {} 9 = .block .expression "user-n".toList false ∧
      dotBefore t (t.clamp 9) = false ∧
      complete {} ⟨[("user-name".toList, .leaf "Login")]⟩ t 9 = some ⟨⟨8, 9⟩, [userName]⟩ ∧
      Span.of ⟨8, 9⟩ t ≠ (t.contextAt {} 9).typed := by
  decide +kernel

/-- **Answers are anchored at the cursor.**  A context has just the parts that belong to its name,
and they say what stands before the cursor; a completion replaces something that ends there, on
the same line. -/
theorem contextAt_complete_anchored (settings : Settings) (t : Text) (pos : Int) :
    let cursor := t.clamp pos
    let context := t.contextAt settings pos
    (cursor : Int) = max 0 (min pos t.length) ∧
    (context.closed?.isSome = true ↔
      context.name ∈ ["statement", "expression", "comment", "property_access"]) ∧
    (context.path?.isSome = true ↔ context.name = "property_access") ∧
    (context.start?.isSome = true ↔ context.name = "partial") ∧
    (context.stop?.isSome = true ↔ context.name = "partial") ∧
    context.Anchored t cursor ∧
    ∀ tree completion, complete settings tree t pos = some completion →
      (t.lineBefore cursor).1 ≤ completion.span.start ∧
      completion.span.start ≤ completion.span.stop ∧ completion.span.stop = cursor ∧
      '\n' ∉ completion.span.of t := by
  intro cursor context
  have hcursor : cursor ≤ t.length := t.clamp_le pos
  have hanchored : context.Anchored t cursor := Text.contextWithin_anchored settings hcursor
  obtain ⟨hclosed, hpath, hstart, hstop⟩ := context.isSome_parts_iff
  refine ⟨t.natCast_clamp pos, hclosed, hpath, hstart, hstop, hanchored, ?_⟩
  intro tree completion h
  obtain ⟨hstart, hstop, hnewline⟩ :=
    Completion.onLine_of_inContext hcursor hanchored (Completion.inContext_of_complete h)
  refine ⟨?_, hstart.trans_eq hstop.symm, hstop, hnewline⟩
  rw [Text.lineStart_le_iff hcursor, ← hstop]
  exact hnewline

/-- With the cursor after the end of `{{ news.he`, on the line after a line with a brace. -/
theorem contextAt_complete_anchored_secondLine :
    let t : Text := ['{', '\n'] ++ BlockKind.expression.opener ++ " news.he".toList
    let tree : VariableTree := ⟨[("news".toList, .object [("headline".toList, .leaf "title")])]⟩
    let headline : Candidate :=
      { label := "headline".toList, kind := .property, insertion := "headline".toList,
        detail := "title" }
    let completion : Completion := ⟨⟨10, 12⟩, [headline]⟩
    t.clamp 99 = 12 ∧ t.contextAt {} 99 = .property "news".toList "he".toList false ∧
      complete {} tree t 99 = some completion ∧
      (t.contextAt {} 99).Anchored t 12 ∧ (t.lineBefore 12).1 ≤ completion.span.start ∧
      '\n' ∉ completion.span.of t := by
  intro t tree headline completion
  have hclamp : t.clamp 99 = 12 := by decide
  have hcomplete : complete {} tree t 99 = some completion := by decide +kernel
  obtain ⟨-, -, -, -, -, hanchored, hreplaced⟩ := contextAt_complete_anchored {} t 99
  obtain ⟨hstart, -, -, hnewline⟩ := hreplaced _ completion hcomplete
  rw [hclamp] at hanchored hstart
  exact ⟨hclamp, by decide +kernel, hcomplete, hanchored, hstart, hnewline⟩

end TemplateAssist
