import Mathlib.Logic.Relation
import TemplateAssist.Proofs.Block.Walk

/-!
# The walk over a text comes to an end

`Text.items` grants the walk a number of steps.  Left to itself the walk would go on until a step
ends it, and although it goes back now and then, it always gets there, within the steps granted.

* `Moves` says once what a step can do; `moves_of_step` is the only place where `step` is opened.
* `Visits` are the states that the walk comes to.  `Visits.step_cases` tells the steps apart that
  read on from those that go back: these remember more than was known before.
* `Ends` counts the steps up to the one that ends the walk.  No step is granted here, so that what
  it says of `Text.items` is that nothing is cut off (`walk_ends`).
-/

set_option autoImplicit false

namespace TemplateAssist
namespace Walk

/-! ## What a step can do -/

/-- The steps of the walk over a text of some length, with what they report. -/
inductive Moves (length : Nat) : State → State → Option Item → Prop
  /-- Between blocks, a character that opens none is passed over. -/
  | outside {p : Place} {m : Settled} {c : Char} {rest : Text} (hrest : p.rest = c :: rest)
      (hnone : BlockKind.opening? p.rest = none) :
      Moves length ⟨.outside, p, m⟩ ⟨.outside, p.advance 1, m⟩ none
  | opens {p : Place} {m : Settled} {kind : BlockKind} {body : Text}
      (hopen : BlockKind.opening? p.rest = some (kind, body)) :
      Moves length ⟨.outside, p, m⟩ ⟨.inside ⟨kind, p.offset, body⟩, p.advance 2, m⟩ none
  | closes {o : Opened} {p : Place} {m : Settled} {found : BlockKind} {after : Text}
      (hclose : BlockKind.closing? p.rest = some (found, after)) :
      Moves length ⟨.inside o, p, m⟩ ⟨.outside, p.advance 2, m⟩ (some (o.close p.offset found))
  /-- In a block, a character is passed over if it is no quote to be tried. -/
  | inside {o : Opened} {p : Place} {m : Settled} {c : Char} {rest : Text}
      (hrest : p.rest = c :: rest) (hnone : BlockKind.closing? p.rest = none)
      (hquote : ∀ quote, c = Quote.char quote → o.kind = .comment ∨ p.offset < m.get quote) :
      Moves length ⟨.inside o, p, m⟩ ⟨.inside o, p.advance 1, m⟩ none
  | tries {o : Opened} {p : Place} {m : Settled} {quote : Quote} {rest : Text}
      (hrest : p.rest = quote.char :: rest) (hnone : BlockKind.closing? p.rest = none)
      (hkind : o.kind ≠ .comment) (hsettled : m.get quote ≤ p.offset) :
      Moves length ⟨.inside o, p, m⟩ ⟨.quoted o quote (p.advance 1), p.advance 1, m⟩ none
  /-- A backslash carries the next character along. -/
  | escapes {o : Opened} {quote : Quote} {resume p : Place} {m : Settled} {rest : Text}
      (hrest : p.rest = '\\' :: rest) :
      Moves length ⟨.quoted o quote resume, p, m⟩ ⟨.quoted o quote resume, p.advance 2, m⟩ none
  | quoted {o : Opened} {quote : Quote} {resume p : Place} {m : Settled} {c : Char} {rest : Text}
      (hrest : p.rest = c :: rest) (hbackslash : c ≠ '\\') (hquote : c ≠ quote.char)
      (hnewline : c ≠ '\n') :
      Moves length ⟨.quoted o quote resume, p, m⟩ ⟨.quoted o quote resume, p.advance 1, m⟩ none
  /-- The quote ends the string literal. -/
  | unquotes {o : Opened} {quote : Quote} {resume p : Place} {m : Settled} {rest : Text}
      (hrest : p.rest = quote.char :: rest) :
      Moves length ⟨.quoted o quote resume, p, m⟩ ⟨.inside o, p.advance 1, m⟩ none
  /-- The line or the text ends first. -/
  | rewinds {o : Opened} {quote : Quote} {resume p : Place} {m : Settled} {stop : Nat}
      (hstop : p.rest = [] ∧ stop = length ∨ ∃ rest, p.rest = '\n' :: rest ∧ stop = p.offset) :
      Moves length ⟨.quoted o quote resume, p, m⟩ ⟨.inside o, resume, m.set stop quote⟩ none

section

variable {length : Nat} {s s' : State} {report : Option Item}

theorem moves_of_stepAtEnd (h : stepAtEnd length s = .next s' report) (hrest : s.place.rest = []) :
    Moves length s s' report := by
  obtain ⟨mode, p, m⟩ := s
  cases mode with
  | outside => cases h
  | inside o => cases h
  | quoted o quote resume =>
    cases h
    exact .rewinds (.inl ⟨hrest, rfl⟩)

theorem moves_of_stepOutside {p : Place} {m : Settled} {c : Char} {rest : Text}
    (h : stepOutside ⟨.outside, p, m⟩ = .next s' report) (hrest : p.rest = c :: rest) :
    Moves length ⟨.outside, p, m⟩ s' report := by
  cases hopen : BlockKind.opening? p.rest with
  | none =>
    simp only [stepOutside, hopen] at h
    cases h
    exact .outside hrest hopen
  | some found =>
    simp only [stepOutside, hopen] at h
    cases h
    exact .opens hopen

theorem moves_of_stepInside {o : Opened} {p : Place} {m : Settled} {c : Char} {rest : Text}
    (h : stepInside ⟨.inside o, p, m⟩ o c = .next s' report) (hrest : p.rest = c :: rest) :
    Moves length ⟨.inside o, p, m⟩ s' report := by
  cases hclose : BlockKind.closing? p.rest with
  | some found =>
    simp only [stepInside, hclose] at h
    cases h
    exact .closes hclose
  | none =>
    cases hq : Quote.ofChar? c with
    | none =>
      simp only [stepInside, hclose, hq] at h
      cases h
      refine .inside hrest hclose fun quote hquote ↦ ?_
      rw [Quote.ofChar?_eq_some_iff.2 hquote] at hq
      cases hq
    | some quote =>
      obtain rfl := Quote.ofChar?_eq_some_iff.1 hq
      simp only [stepInside, hclose, hq] at h
      split at h
      · next hmay =>
        cases h
        simp only [mayQuote, Bool.and_eq_true, bne_iff_ne, decide_eq_true_eq] at hmay
        exact .tries hrest hclose hmay.1 hmay.2
      · next hmay =>
        cases h
        refine .inside hrest hclose fun quote' hquote ↦ ?_
        rw [← Quote.ofChar?_eq_some_iff, hq] at hquote
        obtain rfl := Option.some.inj hquote
        by_cases hkind : o.kind = .comment
        · exact .inl hkind
        · exact .inr (by simpa [mayQuote, hkind] using hmay)

theorem moves_of_stepQuoted {o : Opened} {quote : Quote} {resume p : Place} {m : Settled} {c : Char}
    {rest : Text} (h : stepQuoted ⟨.quoted o quote resume, p, m⟩ o quote resume c = .next s' report)
    (hrest : p.rest = c :: rest) : Moves length ⟨.quoted o quote resume, p, m⟩ s' report := by
  rw [stepQuoted] at h
  split at h
  · next hc =>
    cases h
    exact .escapes (hc ▸ hrest)
  · next hbackslash =>
    split at h
    · next hc =>
      cases h
      exact .unquotes (hc ▸ hrest)
    · next hquote =>
      split at h
      · next hc =>
        cases h
        exact .rewinds (.inr ⟨rest, hc ▸ hrest, rfl⟩)
      · next hnewline =>
        cases h
        exact .quoted hrest hbackslash hquote hnewline

/-- **A step does one of these things.** -/
theorem moves_of_step (h : step length s = .next s' report) : Moves length s s' report := by
  obtain ⟨mode, p, m⟩ := s
  rw [step] at h
  cases hrest : p.rest with
  | nil =>
    simp only [hrest] at h
    exact moves_of_stepAtEnd h hrest
  | cons c rest =>
    simp only [hrest] at h
    cases mode with
    | outside => exact moves_of_stepOutside h hrest
    | inside o => exact moves_of_stepInside h hrest
    | quoted o quote resume => exact moves_of_stepQuoted h hrest

end

/-! ## The states that the walk comes to -/

/-- One step of the walk over a text leads to a further state. -/
def Steps (t : Text) (s s' : State) : Prop := ∃ report, step t.length s = .next s' report

/-- The states that the walk over a text comes to. -/
def Visits (t : Text) (s : State) : Prop := Relation.ReflTransGen (Steps t) (.start t) s

/-- The step gives up a string literal that was being tried out, and goes back to just after the
quote. -/
def Rewinds (quote : Quote) (s s' : State) : Prop :=
  ∃ o resume, s.mode = .quoted o quote resume ∧ s'.place = resume

@[simp]
theorem Settled.get_set_self (m : Settled) (offset : Nat) (quote : Quote) :
    (m.set offset quote).get quote = offset := by
  cases quote <;> rfl

section

variable {t : Text} {s s' : State}

theorem visits_start (t : Text) : Visits t (.start t) := .refl

theorem Visits.step (h : Visits t s) {report : Option Item}
    (hstep : Walk.step t.length s = .next s' report) : Visits t s' :=
  .tail h ⟨report, hstep⟩

theorem Visits.valid (h : Visits t s) : s.Valid t := by
  induction h with
  | refl => exact valid_start t
  | tail _ hstep ih =>
    obtain ⟨report, hstep⟩ := hstep
    have hfollows := step_follows ih
    rw [hstep] at hfollows
    exact hfollows.valid

/-- A quote that is being tried was not settled. -/
theorem Visits.settled_lt (h : Visits t s) {o : Opened} {quote : Quote} {resume : Place}
    (hmode : s.mode = .quoted o quote resume) : s.settled.get quote < resume.offset := by
  induction h with
  | refl => cases hmode
  | tail _ hstep ih =>
    obtain ⟨report, hstep⟩ := hstep
    cases moves_of_step hstep with
    | outside | opens | closes | inside | unquotes | rewinds => cases hmode
    | tries hrest hnone hkind hsettled =>
      cases hmode
      exact Nat.lt_succ_of_le hsettled
    | escapes => exact ih hmode
    | quoted => exact ih hmode

/-- **A step reads on, or goes back and remembers more.** -/
theorem Visits.step_cases (h : Visits t s) (hstep : Steps t s s') :
    s.place.offset < s'.place.offset ∧ s'.settled = s.settled ∨
    ∃ o quote resume stop, s.mode = .quoted o quote resume ∧
      s' = ⟨.inside o, resume, s.settled.set stop quote⟩ ∧ s.settled.get quote < stop ∧
      stop ≤ t.length := by
  have hvalid := h.valid
  have hlt := @h.settled_lt
  obtain ⟨report, hstep⟩ := hstep
  cases moves_of_step hstep with
  | outside | inside | tries | quoted | unquotes => exact .inl ⟨Nat.lt_succ_self _, rfl⟩
  | opens | closes | escapes => exact .inl ⟨Nat.lt_add_of_pos_right Nat.two_pos, rfl⟩
  | @rewinds o quote resume p m stop hstop =>
    have hresume : resume.offset ≤ t.length := hvalid.within.le
    have hbase : resume.offset ≤ p.offset := hvalid.base_le
    have hsettled : m.get quote < resume.offset := hlt rfl
    refine .inr ⟨o, quote, resume, stop, rfl, rfl, ?_⟩
    show m.get quote < stop ∧ stop ≤ t.length
    rcases hstop with ⟨-, rfl⟩ | ⟨rest, hrest, rfl⟩
    · omega
    · have hend : p.offset < t.length := offset_lt_of_rest_eq_cons hvalid.rest_eq hrest
      omega

theorem Visits.settled_of_rewinds (h : Visits t s) (hstep : Steps t s s') {quote : Quote}
    (hback : Rewinds quote s s') : s'.place.offset ≤ s.place.offset ∧
      s.settled.get quote < s'.settled.get quote ∧ s'.settled.get quote ≤ t.length := by
  obtain ⟨o, resume, hmode, hplace⟩ := hback
  have hbase : s.base = resume := by rw [State.base, hmode]
  have hle : s'.place.offset ≤ s.place.offset := by
    rw [hplace, ← hbase]
    exact h.valid.base_le
  refine ⟨hle, ?_⟩
  obtain ⟨hlt, -⟩ | ⟨o', quote', resume', stop, hmode', rfl, hlt, hstop⟩ := h.step_cases hstep
  · omega
  · rw [hmode] at hmode'
    cases hmode'
    rw [Settled.get_set_self]
    exact ⟨hlt, hstop⟩

theorem Visits.offset_lt_of_not_rewinds (h : Visits t s) (hstep : Steps t s s')
    (hback : ∀ quote, ¬ Rewinds quote s s') :
    s.place.offset < s'.place.offset ∧ s'.settled = s.settled := by
  obtain hon | ⟨o, quote, resume, stop, hmode, rfl, -⟩ := h.step_cases hstep
  · exact hon
  · exact absurd ⟨o, resume, hmode, rfl⟩ (hback quote)

end

/-! ## The number of steps -/

/-- From a state, the walk over a text ends with its `n`-th step, and has then reported these
items. -/
inductive Ends (t : Text) : Nat → State → List Item → Prop
  | done {s : State} {report : Option Item} (h : step t.length s = .done report) :
      Ends t 1 s report.toList
  | next {n : Nat} {s s' : State} {report : Option Item} {items : List Item}
      (h : step t.length s = .next s' report) (hrest : Ends t n s' items) :
      Ends t (n + 1) s (report.toList ++ items)

/-- The potential of a state bounds the steps that are left. -/
theorem exists_ends {t : Text} {s : State} (hs : s.Valid t) :
    ∃ n ≤ s.potential t.length, Ends t n s s.pending := by
  induction hp : s.potential t.length using Nat.strongRecOn generalizing s with
  | ind bound ih =>
    have hfollows := step_follows hs
    cases hstep : step t.length s with
    | done report =>
      rw [hstep] at hfollows
      have hpending : s.pending = report.toList := hfollows
      rw [hpending]
      exact ⟨1, hp ▸ potential_pos _ _, .done hstep⟩
    | next s' report =>
      rw [hstep] at hfollows
      have hadvances : Advances t s s' report := hfollows
      have hlt := hp ▸ hadvances.potential_lt
      obtain ⟨n, hn, hends⟩ := ih _ hlt hadvances.valid rfl
      rw [hadvances.pending_eq]
      exact ⟨n + 1, Nat.succ_le_of_lt (Nat.lt_of_le_of_lt hn hlt), .next hstep hends⟩

/-- **The walk over a text comes to an end.**  A step that goes back remembers more of the text for
its kind of quote than was known, and never more than there is; every other step moves on in the
text and remembers nothing new; and three steps for each character and three more are enough to come
to the end, with all items of the text reported. -/
theorem walk_ends (t : Text) :
    (∀ s s' quote, Visits t s → Steps t s s' → Rewinds quote s s' →
      s'.place.offset ≤ s.place.offset ∧
        s.settled.get quote < s'.settled.get quote ∧ s'.settled.get quote ≤ t.length) ∧
    (∀ s s', Visits t s → Steps t s s' → (∀ quote, ¬ Rewinds quote s s') →
      s.place.offset < s'.place.offset ∧ s'.settled = s.settled) ∧
    ∃ n ≤ 3 * t.length + 3, Ends t n (.start t) t.items := by
  refine ⟨fun s s' quote hs hstep ↦ hs.settled_of_rewinds hstep,
    fun s s' hs hstep ↦ hs.offset_lt_of_not_rewinds hstep, ?_⟩
  obtain ⟨n, hn, hends⟩ := exists_ends (valid_start t)
  rw [potential_start] at hn
  rw [t.items_eq_region]
  exact ⟨n, by omega, hends⟩

/-- In an expression of two quotes that is not closed, the walk tries the double quote, goes back,
and tries the single one, which it had passed over: neither of them is ended. -/
theorem walk_ends_two_quotes :
    let t : Text := BlockKind.expression.opener ++ [Quote.double.char, Quote.single.char]
    let o : Opened := ⟨.expression, 0, [Quote.double.char, Quote.single.char]⟩
    let s : State := ⟨.quoted o .single ⟨4, []⟩, ⟨4, []⟩, ⟨4, 0⟩⟩
    let s' : State := ⟨.inside o, ⟨4, []⟩, ⟨4, 4⟩⟩
    Visits t s ∧ Steps t s s' ∧ Rewinds .single s s' ∧
      s.settled.get .single < s'.settled.get .single ∧ s'.settled.get .single ≤ t.length ∧
      ∃ n ≤ 15, Ends t n (.start t) t.items := by
  intro t o s s'
  have hvisits : Visits t s :=
    (visits_start t).step rfl |>.step rfl |>.step rfl |>.step rfl |>.step rfl
  have hstep : Steps t s s' := ⟨none, rfl⟩
  have hback : Rewinds .single s s' := ⟨o, ⟨4, []⟩, rfl, rfl⟩
  obtain ⟨hrewinds, -, hends⟩ := walk_ends t
  exact ⟨hvisits, hstep, hback, (hrewinds s s' .single hvisits hstep hback).2.1,
    (hrewinds s s' .single hvisits hstep hback).2.2, hends⟩

end Walk
end TemplateAssist
