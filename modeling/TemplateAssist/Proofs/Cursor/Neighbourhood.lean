import TemplateAssist.Completion
import TemplateAssist.Hover
import TemplateAssist.Proofs.Cursor.Context
import TemplateAssist.Proofs.Cursor.Path

/-!
# The neighbourhood of the cursor

What is answered at a cursor depends on a few characters around it only.  To say so, the text is
cut to a window `[lo, hi)` with the cursor inside, and the answer in the window, moved `lo` further
on, is compared with the answer in the whole text.

Each part of an answer has its own condition on the window:

* `Text.lineBefore_slice` — the line up to the cursor has to lie in the window;
* `closerAhead_slice` — so has the stretch that is searched for a closer;
* `objectPathBefore?_slice` — so has the stretch that is searched for an expression opened earlier;
* `wordNear?_slice` — so have the characters on both sides that are searched for a word.

`Text.contextWithin_slice`, `complete_slice` and `hover_slice` put them together, for every window
that is large enough.
-/

set_option autoImplicit false

namespace TemplateAssist

/-! ## Answers moved on -/

/-- The context with its places moved `n` further on. -/
def Context.shift (n : Nat) : Context → Context
  | .brace word start stop => .brace word (start + n) (stop + n)
  | context => context

/-- The completion with its span moved `n` further on. -/
def Completion.shift (n : Nat) (completion : Completion) : Completion :=
  { completion with span := completion.span.shift n }

/-- The explanation with its position moved `n` further on. -/
def Explanation.shift (n : Nat) (explanation : Explanation) : Explanation :=
  { explanation with position := explanation.position + n }

@[simp]
theorem Context.shift_blockContext (n : Nat) (kind : BlockKind) (content : Text) (closed : Bool) :
    (blockContext kind content closed).shift n = blockContext kind content closed := by
  unfold blockContext
  split <;> rfl

@[simp]
theorem Context.typed_shift (n : Nat) (context : Context) :
    (context.shift n).typed = context.typed := by
  cases context <;> rfl

@[simp]
theorem Completion.pool_shift (tree : VariableTree) (n : Nat) (context : Context) :
    pool tree (context.shift n) = pool tree context := by
  cases context <;> rfl

@[simp]
theorem Completion.offer_shift (settings : Settings) (dotTyped : Bool) (typed : Text)
    (candidates : List Candidate) (n : Nat) (span : Span Nat) :
    offer settings dotTyped typed candidates (span.shift n)
      = (offer settings dotTyped typed candidates span).map (Completion.shift n) := by
  simp only [offer]
  split <;> rfl

/-! ## The context in a window -/

section Window

variable {t : Text} {lo hi pos : Nat}

theorem Text.take_slice (hlo : lo ≤ pos) (hhi : pos ≤ hi) :
    (t.slice lo hi).take (pos - lo) = (t.take pos).drop lo := by
  rw [slice, List.take_drop, List.take_take]
  congr 2
  omega

theorem Text.clamp_slice (hpos : pos ≤ t.length) (hhi : pos ≤ hi) :
    (t.slice lo hi).clamp (pos - lo : Nat) = pos - lo := by
  rw [clamp, length_slice, Int.toNat_natCast]
  omega

/-- The line of the cursor is the same in a window that has all of it up to the cursor. -/
theorem Text.lineBefore_slice (hpos : pos ≤ t.length) (hlo : lo ≤ (t.lineBefore pos).1)
    (hhi : pos ≤ hi) :
    (t.slice lo hi).lineBefore (pos - lo : Nat)
      = ((t.lineBefore pos).1 - lo, (t.lineBefore pos).2) := by
  have hcut := congrArg List.length (beforeTrailing_append_trailing (· ≠ '\n') (t.take pos))
  rw [List.length_append, List.length_take_of_le hpos] at hcut
  have hlength : pos - lo ≤ (t.slice lo hi).length := by
    rw [length_slice]
    omega
  rw [lineBefore_natCast hpos] at hlo ⊢
  rw [lineBefore_natCast hlength, take_slice (by omega) hhi, trailing_drop (by omega)]
  congr 1
  omega

theorem closerAhead_slice {settings : Settings} (kind : BlockKind) (hlo : lo ≤ pos)
    (hhi : pos + settings.closingLookahead ≤ hi) :
    closerAhead settings (t.slice lo hi) (pos - lo) kind = closerAhead settings t pos kind := by
  rw [closerAhead, closerAhead, Text.slice_slice t _ (by omega)]
  congr 2 <;> omega

/-- The context is the same in a window that has the line up to the cursor and the stretch that is
searched for a closer. -/
theorem Text.contextWithin_slice {settings : Settings} (hpos : pos ≤ t.length)
    (hlo : lo ≤ (t.lineBefore pos).1) (hhi : pos + settings.closingLookahead ≤ hi) :
    t.contextWithin settings pos
      = ((t.slice lo hi).contextWithin settings (pos - lo)).shift lo := by
  have hline := start_add_length_lineBefore hpos
  have hcloser : ∀ kind, closerAhead settings (t.slice lo hi) (pos - lo) kind
      = closerAhead settings t pos kind := fun kind ↦ closerAhead_slice kind (by omega) hhi
  simp only [contextWithin, lineBefore_slice hpos hlo (by omega : pos ≤ hi), hcloser]
  cases loneBrace? (t.lineBefore pos).2 with
  | some found =>
    have hstart : (t.lineBefore pos).1 - lo + found.1 + lo = (t.lineBefore pos).1 + found.1 := by
      omega
    have hstop : pos - lo + lo = pos := by omega
    simp only [Context.shift, hstart, hstop]
  | none =>
    cases openBlock? (t.lineBefore pos).2 with
    | none => rfl
    | some found => simp

theorem Text.contextAt_slice {settings : Settings} (hpos : pos ≤ t.length)
    (hlo : lo ≤ (t.lineBefore pos).1) (hhi : pos + settings.closingLookahead ≤ hi) :
    t.contextAt settings pos
      = ((t.slice lo hi).contextAt settings (pos - lo : Nat)).shift lo := by
  have hclamp : t.clamp pos = pos := Nat.min_eq_left hpos
  rw [contextAt, contextAt, hclamp, clamp_slice hpos (by omega), contextWithin_slice hpos hlo hhi]

/-! ## Completions in a window -/

/-- What stands before the line of the cursor, if anything does, is a newline. -/
theorem Text.getElem?_before_line (hpos : pos ≤ t.length) (h : 0 < (t.lineBefore pos).1) :
    t[(t.lineBefore pos).1 - 1]? = some '\n' := by
  have hcut := beforeTrailing_append_trailing (· ≠ '\n') (t.take pos)
  have hlength := congrArg List.length hcut
  rw [List.length_append, List.length_take_of_le hpos] at hlength
  rw [lineBefore_natCast hpos] at h ⊢
  rcases beforeTrailing_eq_nil_or_concat (· ≠ '\n') (t.take pos) with hnil | ⟨u, c, heq, hc⟩
  · rw [hnil, List.length_nil] at hlength
    omega
  · obtain rfl : c = '\n' := by simpa using hc
    rw [heq, List.length_append, List.length_singleton] at hlength
    have hstart : pos - (trailing (· ≠ '\n') (t.take pos)).length - 1 = u.length := by omega
    have htext : t = u ++ '\n' :: (trailing (· ≠ '\n') (t.take pos) ++ t.drop pos) := by
      rw [heq] at hcut
      nth_rewrite 1 [← List.take_append_drop pos t, ← hcut]
      simp
    show t[pos - (trailing (· ≠ '\n') (t.take pos)).length - 1]? = _
    rw [hstart, htext]
    simp

theorem dotBefore_slice (hpos : pos ≤ t.length) (hlo : lo ≤ (t.lineBefore pos).1)
    (hhi : pos ≤ hi) : dotBefore (t.slice lo hi) (pos - lo) = dotBefore t pos := by
  have hline := Text.start_add_length_lineBefore hpos
  by_cases hlt : lo < pos
  · have hchar : (t.slice lo hi)[pos - lo - 1]? = t[pos - 1]? := by
      rw [Text.slice, List.getElem?_drop, List.getElem?_take_of_lt (by omega)]
      congr 1
      omega
    have hwindow : 0 < pos - lo := by omega
    have hwhole : 0 < pos := by omega
    simp only [dotBefore, hchar, hwindow, hwhole]
  · -- The window starts at the cursor, and so does the line: there is a newline before it, if any.
    have hstart : (t.lineBefore pos).1 = pos := by omega
    have hwindow : pos - lo = 0 := by omega
    by_cases hzero : pos = 0
    · simp [dotBefore, hzero]
    · have hnewline := Text.getElem?_before_line hpos (by omega)
      rw [hstart] at hnewline
      simp [dotBefore, hwindow, hnewline]

theorem objectPathBefore?_natCast (t : Text) (lookback : Nat) (h : 0 < pos) :
    objectPathBefore? t pos lookback
      = openExpressionPath? (t.slice (pos - lookback) (pos - 1)) := by
  have hstart : max 0 ((pos : Int) - lookback) = ((pos - lookback : Nat) : Int) := by omega
  have hstop : (pos : Int) - 1 = ((pos - 1 : Nat) : Int) := by omega
  rw [objectPathBefore?, hstart, hstop, Text.sliceAt_natCast]

/-- The path before a dot is the same in a window that has the stretch in which it is searched. -/
theorem objectPathBefore?_slice {lookback : Nat} (hlo : lo ≤ pos - lookback) (hlt : lo < pos)
    (hhi : pos ≤ hi) :
    objectPathBefore? (t.slice lo hi) (pos - lo : Nat) lookback
      = objectPathBefore? t pos lookback := by
  rw [objectPathBefore?_natCast _ _ (by omega), objectPathBefore?_natCast _ _ (by omega),
    Text.slice_slice t _ (by omega)]
  congr 2 <;> omega

/-- The word after a dot is on the line of the cursor. -/
theorem Text.length_typed_le {settings : Settings} {path typed : Text} {closed : Bool}
    (h : t.contextWithin settings pos = .property path typed closed) :
    typed.length ≤ (t.lineBefore pos).2.length := by
  obtain ⟨-, -, content, hopen, hdotted⟩ := contextWithin_eq_property_iff.1 h
  obtain ⟨u, s, hcontent, -⟩ := dottedAccess?_sound hdotted
  have hle := (openBlock?_suffix hopen).length_le
  rw [hcontent] at hle
  simp only [List.length_append, List.length_cons] at hle
  omega

namespace Completion

theorem dotPath?_slice {settings : Settings} (context : Context)
    (hlo : lo ≤ pos - settings.dotLookback) (hlt : lo < pos) (hhi : pos ≤ hi) :
    dotPath? settings (t.slice lo hi) (pos - lo) context
      = dotPath? settings t pos (context.shift lo) := by
  cases context with
  | property => rfl
  | _ => exact objectPathBefore?_slice hlo hlt hhi

/-- What is replaced in a window is what is replaced in the text, if it stands on the line of the
cursor. -/
theorem replaced_slice {context : Context} (hpos : pos ≤ t.length)
    (hlo : lo ≤ (t.lineBefore pos).1) (hhi : pos ≤ hi)
    (htyped : ∀ path typed closed, context = .property path typed closed →
      typed.length ≤ (t.lineBefore pos).2.length) :
    replaced t pos (context.shift lo) = (replaced (t.slice lo hi) (pos - lo) context).shift lo := by
  have hline := Text.start_add_length_lineBefore hpos
  have hstop : pos - lo + lo = pos := by omega
  cases context with
  | prose => simp [Context.shift, replaced, Span.shift, hstop]
  | brace word start stop => rfl
  | block kind typed closed =>
    have hword : (t.lineBefore pos).2.trailingWord.length ≤ (t.lineBefore pos).2.length :=
      (List.rtakeWhile_suffix _ _).length_le
    simp only [Context.shift, replaced, Span.shift, Text.lineBefore_slice hpos hlo hhi, hstop,
      Span.mk.injEq, and_true]
    omega
  | property path typed closed =>
    have hle := htyped path typed closed rfl
    simp only [Context.shift, replaced, Span.shift, hstop, Span.mk.injEq, and_true]
    omega

/-- The completion at a cursor within the text, in a context that is no comment. -/
def inContext (settings : Settings) (tree : VariableTree) (t : Text) (cursor : Nat)
    (context : Context) : Option Completion :=
  match if dotBefore t cursor then dotPath? settings t cursor context else none with
  | some path => offer settings (dotBefore t cursor) [] (tree.properties path) ⟨cursor, cursor⟩
  | none =>
    offer settings (dotBefore t cursor) context.typed (pool tree context)
      (replaced t cursor context)

theorem complete_eq_inContext (settings : Settings) (tree : VariableTree) (t : Text) (pos : Int) :
    complete settings tree t pos = match t.contextWithin settings (t.clamp pos) with
      | .block .comment .. => none
      | context => inContext settings tree t (t.clamp pos) context := by
  simp only [complete]
  cases t.contextWithin settings (t.clamp pos) with
  | block kind typed closed => cases kind <;> rfl
  | _ => rfl

theorem inContext_slice {settings : Settings} (tree : VariableTree) {context : Context}
    (hpos : pos ≤ t.length) (hlo : lo ≤ (t.lineBefore pos).1)
    (hback : lo ≤ pos - settings.dotLookback) (hhi : pos ≤ hi)
    (htyped : ∀ path typed closed, context = .property path typed closed →
      typed.length ≤ (t.lineBefore pos).2.length) :
    inContext settings tree t pos (context.shift lo)
      = (inContext settings tree (t.slice lo hi) (pos - lo) context).map (shift lo) := by
  have hline := Text.start_add_length_lineBefore hpos
  have hdot := dotBefore_slice hpos hlo hhi
  have hpath : (if dotBefore t pos then dotPath? settings t pos (context.shift lo) else none)
      = if dotBefore t pos then dotPath? settings (t.slice lo hi) (pos - lo) context else none := by
    split
    · next htrue =>
      rw [← hdot, dotBefore, Bool.and_eq_true, decide_eq_true_eq] at htrue
      rw [dotPath?_slice context hback (Nat.lt_of_sub_pos htrue.1) hhi]
    · rfl
  have hspan : (⟨pos, pos⟩ : Span Nat) = Span.shift lo ⟨pos - lo, pos - lo⟩ := by
    simp only [Span.shift, Span.mk.injEq, and_self]
    omega
  rw [inContext, inContext, hpath, hdot, hspan, replaced_slice hpos hlo hhi htyped]
  split <;> simp

end Completion

/-- **The completion** is the same in a window that has the line up to the cursor, the stretch that
is searched for a closer, and the stretch that is searched for the path before a dot. -/
theorem complete_slice {settings : Settings} (tree : VariableTree) (hpos : pos ≤ t.length)
    (hlo : lo ≤ (t.lineBefore pos).1) (hback : lo ≤ pos - settings.dotLookback)
    (hhi : pos + settings.closingLookahead ≤ hi) :
    complete settings tree t pos
      = (complete settings tree (t.slice lo hi) (pos - lo : Nat)).map (Completion.shift lo) := by
  have hle : pos ≤ hi := by omega
  have hclamp : t.clamp pos = pos := Nat.min_eq_left hpos
  have hcontext := Text.contextWithin_slice hpos hlo hhi
  have htyped : ∀ path typed closed,
      (t.slice lo hi).contextWithin settings (pos - lo) = .property path typed closed →
        typed.length ≤ (t.lineBefore pos).2.length := by
    intro path typed closed h
    rw [h] at hcontext
    exact Text.length_typed_le hcontext
  simp only [Completion.complete_eq_inContext, hclamp, Text.clamp_slice hpos hle, hcontext]
  have hanswer := Completion.inContext_slice tree hpos hlo hback hle htyped
  cases hwindow : (t.slice lo hi).contextWithin settings (pos - lo) with
  | block kind typed closed =>
    rw [hwindow] at hanswer
    cases kind with
    | comment => rfl
    | _ => exact hanswer
  | _ => rw [hwindow] at hanswer; exact hanswer

/-! ## Explanations in a window -/

/-- The words of a text that starts further on are the same words, each further on. -/
theorem wordsFrom_add (offset n : Nat) {read : Text} (rest : Text) (h : read.length ≤ offset) :
    wordsFrom (offset + n) read rest
      = (wordsFrom offset read rest).map fun entry ↦ (entry.1 + n, entry.2) := by
  have hfinished : ∀ {offset : Nat} {read : Text}, read.length ≤ offset →
      finishedWord (offset + n) read
        = (finishedWord offset read).map fun entry ↦ (entry.1 + n, entry.2) := by
    intro offset read h
    unfold finishedWord
    split
    · rfl
    · simp only [List.map_cons, List.map_nil, List.cons.injEq, Prod.mk.injEq, and_true]
      omega
  induction rest generalizing offset read with
  | nil => exact hfinished h
  | cons c rest ih =>
    rw [wordsFrom, wordsFrom, Nat.add_right_comm]
    split
    · exact ih (offset + 1) (Nat.succ_le_succ h)
    · rw [hfinished h, ih (offset + 1) (Nat.zero_le _), List.map_append]

theorem wordGap_add (pos : Int) (start n : Nat) (word : Text) :
    wordGap (pos + n) (start + n : Nat) word = wordGap pos start word := by
  simp only [wordGap]
  split <;> split <;> omega

theorem leastBy_map {α β : Type} (measure : β → Nat) (f : α → β) (as : List α) :
    leastBy measure (as.map f) = (leastBy (measure ∘ f) as).map f := by
  induction as with
  | nil => rfl
  | cons a as ih =>
    rw [List.map_cons, leastBy, ih, leastBy]
    cases leastBy (measure ∘ f) as with
    | none => rfl
    | some b =>
      simp only [Option.map_some, Function.comp_apply]
      split <;> rfl

/-- The nearest word is the same in a window that has the stretch in which it is searched. -/
theorem wordNear?_slice {window : Nat} (hlo : lo ≤ pos - window) (hhi : pos + window ≤ hi) :
    wordNear? t pos window = wordNear? (t.slice lo hi) (pos - lo : Nat) window := by
  have hstart : (max 0 ((pos : Int) - window)).toNat = pos - lo - window + lo := by omega
  have hstart' : (max 0 (((pos - lo : Nat) : Int) - window)).toNat = pos - lo - window := by omega
  have hstop : (pos : Int) + window = (lo + (pos - lo + window) : Nat) := by omega
  have hstop' : ((pos - lo : Nat) : Int) + window = (pos - lo + window : Nat) := rfl
  have hgap : (fun entry : Nat × Text ↦ wordGap pos entry.1 entry.2)
      ∘ (fun entry : Nat × Text ↦ (entry.1 + lo, entry.2))
        = fun entry ↦ wordGap (pos - lo : Nat) entry.1 entry.2 := by
    funext entry
    have hpos : (pos : Int) = (pos - lo : Nat) + lo := by omega
    rw [Function.comp_apply, hpos, wordGap_add]
  simp only [wordNear?, hstart, hstart']
  rw [hstop, hstop', Text.sliceAt_natCast, Text.sliceAt_natCast, Text.slice_slice t _ (by omega),
    Nat.add_comm lo (pos - lo - window), wordsFrom_add _ _ _ (Nat.zero_le _), leastBy_map, hgap,
    Option.map_map]
  rfl

/-- **The explanation** is the same in a window that has the line up to the cursor, the stretch that
is searched for a closer, and the stretch that is searched for a word. -/
theorem hover_slice {settings : Settings} (hpos : pos ≤ t.length)
    (hlo : lo ≤ (t.lineBefore pos).1) (hback : lo ≤ pos - settings.hoverWindow)
    (hhi : pos + settings.closingLookahead ≤ hi) (hahead : pos + settings.hoverWindow ≤ hi) :
    hover settings t pos
      = (hover settings (t.slice lo hi) (pos - lo : Nat)).map (Explanation.shift lo) := by
  have hclamp : t.clamp pos = pos := Nat.min_eq_left hpos
  have hstop : pos - lo + lo = pos := by omega
  simp only [hover, hclamp, Text.clamp_slice hpos (by omega : pos ≤ hi),
    Text.contextWithin_slice hpos hlo hhi, wordNear?_slice hback hahead]
  cases (t.slice lo hi).contextWithin settings (pos - lo) with
  | prose => rfl
  | _ => simp [Context.shift, Explanation.shift, Function.comp_def, hstop]

end Window

/-! ## All answers -/

namespace Neighbourhood

variable (settings : Settings) (t : Text) (pos : Nat)

/-- The start of the line of the cursor, from which on the context depends on the text. -/
def lineStart : Nat := (t.lineBefore pos).1

/-- The place from which on a completion depends on the text. -/
def completionStart : Nat := min (lineStart t pos) (pos - settings.dotLookback)

/-- The place from which on an explanation depends on the text. -/
def hoverStart : Nat := min (lineStart t pos) (pos - settings.hoverWindow)

/-- The place up to which the context and the completion depend on the text. -/
def closerStop : Nat := pos + settings.closingLookahead

/-- The place up to which an explanation depends on the text. -/
def hoverStop : Nat := pos + max settings.closingLookahead settings.hoverWindow

/-- What can be seen of a text from `lo` up to `hi`, with the cursor's place in it. -/
def view (lo hi : Nat) : Text × Nat := (t.slice lo hi, pos - lo)

variable {t pos}

theorem contextAt_eq (h : pos ≤ t.length) :
    t.contextAt settings pos
      = ((t.slice (lineStart t pos) (closerStop settings pos)).contextAt settings
          (pos - lineStart t pos : Nat)).shift (lineStart t pos) :=
  Text.contextAt_slice h le_rfl le_rfl

theorem complete_eq (tree : VariableTree) (h : pos ≤ t.length) :
    complete settings tree t pos
      = (complete settings tree
          (t.slice (completionStart settings t pos) (closerStop settings pos))
          (pos - completionStart settings t pos : Nat)).map
            (Completion.shift (completionStart settings t pos)) :=
  complete_slice tree h (Nat.min_le_left _ _) (Nat.min_le_right _ _) le_rfl

theorem hover_eq (h : pos ≤ t.length) :
    hover settings t pos
      = (hover settings (t.slice (hoverStart settings t pos) (hoverStop settings pos))
          (pos - hoverStart settings t pos : Nat)).map
            (Explanation.shift (hoverStart settings t pos)) :=
  hover_slice h (Nat.min_le_left _ _) (Nat.min_le_right _ _)
    (Nat.add_le_add_left (Nat.le_max_left _ _) pos)
    (Nat.add_le_add_left (Nat.le_max_right _ _) pos)

/-- **The answers at a cursor see its neighbourhood only.**  The context, the completion and the
explanation in a text are those in the stretch around the cursor on which they depend, moved to
where that stretch stands.  So whatever else is in a text, and wherever the stretch stands in it,
the answers do not change. -/
theorem contextAt_complete_hover_eq (tree : VariableTree) (h : pos ≤ t.length) :
    (t.contextAt settings pos
        = ((t.slice (lineStart t pos) (closerStop settings pos)).contextAt settings
            (pos - lineStart t pos : Nat)).shift (lineStart t pos) ∧
      complete settings tree t pos
        = (complete settings tree
            (t.slice (completionStart settings t pos) (closerStop settings pos))
            (pos - completionStart settings t pos : Nat)).map
              (Completion.shift (completionStart settings t pos)) ∧
      hover settings t pos
        = (hover settings (t.slice (hoverStart settings t pos) (hoverStop settings pos))
            (pos - hoverStart settings t pos : Nat)).map
              (Explanation.shift (hoverStart settings t pos))) ∧
    ∀ (u : Text) (place : Nat), place ≤ u.length →
      (view u place (lineStart u place) (closerStop settings place)
          = view t pos (lineStart t pos) (closerStop settings pos) →
        ∃ context : Context, t.contextAt settings pos = context.shift (lineStart t pos) ∧
          u.contextAt settings place = context.shift (lineStart u place)) ∧
      (view u place (completionStart settings u place) (closerStop settings place)
          = view t pos (completionStart settings t pos) (closerStop settings pos) →
        ∃ completion : Option Completion,
          complete settings tree t pos
            = completion.map (Completion.shift (completionStart settings t pos)) ∧
          complete settings tree u place
            = completion.map (Completion.shift (completionStart settings u place))) ∧
      (view u place (hoverStart settings u place) (hoverStop settings place)
          = view t pos (hoverStart settings t pos) (hoverStop settings pos) →
        ∃ explanation : Option Explanation,
          hover settings t pos
            = explanation.map (Explanation.shift (hoverStart settings t pos)) ∧
          hover settings u place
            = explanation.map (Explanation.shift (hoverStart settings u place))) := by
  refine ⟨⟨contextAt_eq settings h, complete_eq settings tree h, hover_eq settings h⟩,
    fun u place hu ↦ ⟨fun hview ↦ ?_, fun hview ↦ ?_, fun hview ↦ ?_⟩⟩
  · obtain ⟨htext, hcursor⟩ := Prod.mk.inj hview
    exact ⟨_, contextAt_eq settings h, by rw [contextAt_eq settings hu, htext, hcursor]⟩
  · obtain ⟨htext, hcursor⟩ := Prod.mk.inj hview
    exact ⟨_, complete_eq settings tree h, by rw [complete_eq settings tree hu, htext, hcursor]⟩
  · obtain ⟨htext, hcursor⟩ := Prod.mk.inj hview
    exact ⟨_, hover_eq settings h, by rw [hover_eq settings hu, htext, hcursor]⟩

/-- In `old {{ a⏎b. and more`, with the cursor after the dot: the expression is opened on the line
before, and neither `old ` nor ` more` are looked at. -/
theorem contextAt_complete_hover_eq_dotOnNextLine :
    let settings : Settings := { closingLookahead := 4, dotLookback := 7, hoverWindow := 1 }
    let tree : VariableTree := ⟨[(['b'], .object [(['c'], .leaf "child")])]⟩
    let child : Candidate :=
      { label := ['c'], kind := .property, insertion := ['c'], detail := "child" }
    let window : Text := BlockKind.expression.opener ++ " a\nb. and".toList
    let t : Text := "old ".toList ++ window ++ " more".toList
    11 ≤ t.length ∧
      complete settings tree t 11 = some ⟨⟨11, 11⟩, [child]⟩ ∧
      complete settings tree t 11
        = (complete settings tree window 7).map (Completion.shift 4) := by
  intro settings tree child window t
  have hlength : 11 ≤ t.length := by decide
  have hstart : completionStart settings t 11 = 4 := by decide +kernel
  have hwindow : t.slice 4 (closerStop settings 11) = window := by decide +kernel
  have hcomplete := (contextAt_complete_hover_eq settings tree hlength).1.2.1
  rw [hstart, hwindow] at hcomplete
  exact ⟨hlength, by decide +kernel, hcomplete⟩

end Neighbourhood

end TemplateAssist
