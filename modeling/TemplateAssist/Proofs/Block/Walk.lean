import TemplateAssist.Block.Region
import TemplateAssist.Block.Walk

/-!
# The walk finds the blocks of a text

`Region.items` says what the blocks of a text are, by a recursion that neither goes back nor
remembers anything.  `Walk.run` finds them step by step: it tries string literals out, goes back
where one turns out to be none, and remembers in `Settled` which quotes it need not try again.
This file proves that the two agree on every text.

* `State.pending` is what a state has still to report, in terms of `Region.items`.
* `State.Valid` is the invariant of the walk.  What the walk remembers is true of the quotes that
  it can still meet (`Barren`), and a literal that is being tried out has passed over no quote
  which could start one of its own, should the trial fail.
* `State.potential` bounds the steps that are left.  It pays for one pass over the text, and for
  each kind of quote for one more pass over what has not been settled yet.
* `step_follows` puts the three together for one step, and `run_eq_pending` for a whole run.
-/

set_option autoImplicit false

namespace TemplateAssist
namespace Walk

/-! ## What a state has still to report -/

/-- The open block, as `Region.items` has it. -/
def Opened.region (o : Opened) : BlockKind × Nat × Text := (o.kind, o.start, o.body)

/-- The items that are still to come.  After a quote they depend on whether a string literal
follows. -/
def State.pending (s : State) : List Item :=
  match s.mode with
  | .outside => Region.items none s.place.offset s.place.rest
  | .inside o => Region.items (some o.region) s.place.offset s.place.rest
  | .quoted o quote resume =>
    match Region.stringLength? quote.char s.place.rest with
    | some n => Region.items (some o.region) (s.place.offset + n) (s.place.rest.drop n)
    | none => Region.items (some o.region) resume.offset resume.rest

/-! ## The invariant -/

/-- A place of the text `t`. -/
structure Place.Within (t : Text) (p : Place) : Prop where
  le : p.offset ≤ t.length
  rest_eq : p.rest = t.drop p.offset

theorem Place.Within.length_rest {t : Text} {p : Place} (h : p.Within t) :
    p.rest.length = t.length - p.offset := by
  rw [h.rest_eq, List.length_drop]

theorem Place.rest_advance {t : Text} {p : Place} (h : p.rest = t.drop p.offset) (n : Nat) :
    (p.advance n).rest = t.drop (p.advance n).offset := by
  rw [advance, h, List.drop_drop]

theorem Place.Within.advance {t : Text} {p : Place} (h : p.Within t) {n : Nat}
    (hn : n ≤ p.rest.length) : (p.advance n).Within t := by
  refine ⟨?_, rest_advance h.rest_eq n⟩
  have hle := h.le
  rw [h.length_rest] at hn
  show p.offset + n ≤ t.length
  omega

/-- Between two offsets of the text, no quote of this kind starts a string literal. -/
def Barren (t : Text) (quote : Quote) (lo hi : Nat) : Prop :=
  ∀ k rest, lo ≤ k → k < hi → t.drop k = quote.char :: rest →
    Region.stringLength? quote.char rest = none

theorem Barren.mono {t : Text} {quote : Quote} {lo lo' hi : Nat} (h : Barren t quote lo hi)
    (hlo : lo ≤ lo') : Barren t quote lo' hi :=
  fun k rest hk ↦ h k rest (Nat.le_trans hlo hk)

theorem Barren.succ {t : Text} {quote : Quote} {lo hi : Nat} (h : Barren t quote lo hi)
    (hhi : ∀ rest, t.drop hi = quote.char :: rest →
      Region.stringLength? quote.char rest = none) : Barren t quote lo (hi + 1) := by
  intro k rest hk hkhi hrest
  rcases Nat.lt_or_eq_of_le (Nat.le_of_lt_succ hkhi) with hlt | rfl
  · exact h k rest hk hlt hrest
  · exact hhi rest hrest

/-- No string literal is being tried out. -/
def Mode.Plain : Mode → Prop
  | .quoted _ _ _ => False
  | _ => True

/-- The place from which nothing has been decided yet: while a string literal is tried out, the
place to which the walk may have to go back. -/
def State.base (s : State) : Place :=
  match s.mode with
  | .quoted _ _ resume => resume
  | _ => s.place

/-- The invariant of the walk over a text. -/
structure State.Valid (t : Text) (s : State) : Prop where
  within : s.base.Within t
  rest_eq : s.place.rest = t.drop s.place.offset
  base_le : s.base.offset ≤ s.place.offset
  settled : ∀ q, Barren t q s.base.offset (s.settled.get q)
  /-- If the trial fails, it has settled all that it passed over. -/
  trial : ∀ o q resume, s.mode = .quoted o q resume →
    Region.stringLength? q.char s.place.rest = none → Barren t q resume.offset s.place.offset

theorem valid_start (t : Text) : (State.start t).Valid t where
  within := ⟨Nat.zero_le _, rfl⟩
  rest_eq := rfl
  base_le := Nat.le_refl _
  settled q k rest _ hk := by cases q <;> exact absurd hk (Nat.not_lt_zero k)
  trial o q resume h := by cases h

/-- Without a trial the invariant only speaks of the place and of what is settled. -/
theorem valid_of_plain {t : Text} {mode : Mode} {p : Place} {m : Settled} (hmode : mode.Plain)
    (hp : p.Within t) (hm : ∀ q, Barren t q p.offset (m.get q)) : State.Valid t ⟨mode, p, m⟩ := by
  cases mode with
  | outside => exact ⟨hp, hp.rest_eq, Nat.le_refl _, hm, fun _ _ _ h ↦ by cases h⟩
  | inside o => exact ⟨hp, hp.rest_eq, Nat.le_refl _, hm, fun _ _ _ h ↦ by cases h⟩
  | quoted o quote resume => exact hmode.elim

/-- Going on without a trial keeps the invariant. -/
theorem valid_advance {t : Text} {mode mode' : Mode} {p : Place} {m : Settled} {n : Nat}
    (hs : State.Valid t ⟨mode, p, m⟩) (hmode : mode.Plain) (hmode' : mode'.Plain)
    (hn : n ≤ p.rest.length) : State.Valid t ⟨mode', p.advance n, m⟩ := by
  have hbase : State.base ⟨mode, p, m⟩ = p := by
    cases mode with
    | quoted o quote resume => exact hmode.elim
    | outside => rfl
    | inside o => rfl
  have hp := hs.within
  have hm := hs.settled
  rw [hbase] at hp hm
  exact valid_of_plain hmode' (hp.advance hn) fun q ↦ (hm q).mono (Nat.le_add_right _ _)

theorem settled_set {t : Text} {m : Settled} {quote : Quote} {lo hi : Nat}
    (hm : ∀ q, Barren t q lo (m.get q)) (hq : Barren t quote lo hi) :
    ∀ q, Barren t q lo ((m.set hi quote).get q) := by
  intro q
  cases quote <;> cases q <;> first | exact hq | exact hm _

/-! ## The steps that are left -/

/-- How much of the text can still be passed over in vain, looking for the end of a string literal
in quotes of this kind. -/
def State.room (length : Nat) (s : State) (q : Quote) : Nat :=
  match s.mode with
  | .quoted _ quote resume =>
    if q = quote then length - s.place.offset + 1
    else length - max resume.offset (s.settled.get q)
  | _ => length - max s.place.offset (s.settled.get q)

/-- A bound on the steps that are left. -/
def State.potential (length : Nat) (s : State) : Nat :=
  length - s.base.offset + 1 + s.room length .double + s.room length .single

theorem potential_start (t : Text) :
    (State.start t).potential t.length = 3 * t.length + 1 := by
  simp only [State.potential, State.room, State.base, State.start, Settled.get]
  omega

theorem potential_pos (length : Nat) (s : State) : 0 < s.potential length := by
  unfold State.potential
  omega

theorem potential_of_plain {mode : Mode} (length : Nat) (p : Place) (m : Settled)
    (hmode : mode.Plain) : State.potential length ⟨mode, p, m⟩
      = length - p.offset + 1 + (length - max p.offset m.double)
        + (length - max p.offset m.single) := by
  cases mode with
  | outside => rfl
  | inside o => rfl
  | quoted o quote resume => exact hmode.elim

/-- Going on without a trial uses up at least one step. -/
theorem potential_advance {length : Nat} {mode mode' : Mode} {p : Place} {m : Settled} {n : Nat}
    (hmode : mode.Plain) (hmode' : mode'.Plain) (hp : p.offset < length) (hn : 0 < n) :
    State.potential length ⟨mode', p.advance n, m⟩ < State.potential length ⟨mode, p, m⟩ := by
  have hroom : ∀ k, length - max (p.offset + n) k ≤ length - max p.offset k :=
    fun k ↦ Nat.sub_le_sub_left (by omega) _
  have hpass : length - (p.offset + n) + 1 < length - p.offset + 1 := by omega
  rw [potential_of_plain _ _ _ hmode, potential_of_plain _ _ _ hmode']
  exact Nat.add_lt_add_of_lt_of_le (Nat.add_lt_add_of_lt_of_le hpass (hroom _)) (hroom _)

/-! ## One step -/

/-- What the invariant gives after a step from `s` to `s'`. -/
structure Advances (t : Text) (s s' : State) (report : Option Item) : Prop where
  valid : s'.Valid t
  potential_lt : s'.potential t.length < s.potential t.length
  pending_eq : s.pending = report.toList ++ s'.pending

/-- What one step is to do from a state: to go on as the invariant has it, or to end with the last
item that was still to come. -/
def Outcome.Follows (t : Text) (s : State) : Outcome → Prop
  | .next s' report => Advances t s s' report
  | .done report => s.pending = report.toList

theorem offset_lt_of_rest_eq_cons {t rest : Text} {p : Place} {c : Char}
    (hp : p.rest = t.drop p.offset) (h : p.rest = c :: rest) : p.offset < t.length := by
  have hlen := congrArg List.length (hp.symm.trans h)
  rw [List.length_drop, List.length_cons] at hlen
  omega

theorem offset_eq_of_rest_eq_nil {t : Text} {p : Place} (hp : p.Within t) (h : p.rest = []) :
    p.offset = t.length := by
  have hlen := hp.length_rest
  rw [h, List.length_nil] at hlen
  have hle := hp.le
  omega

/-- A trial that fails is given up, and with it every place to start from that it passed over. -/
theorem advances_resume {t : Text} {o : Opened} {quote : Quote} {resume p : Place} {m : Settled}
    {stop : Nat} (hs : State.Valid t ⟨.quoted o quote resume, p, m⟩)
    (hfail : Region.stringLength? quote.char p.rest = none)
    (hbarren : Barren t quote resume.offset stop) (hstop : t.length - stop ≤ t.length - p.offset) :
    Advances t ⟨.quoted o quote resume, p, m⟩ ⟨.inside o, resume, m.set stop quote⟩ none := by
  refine ⟨valid_of_plain trivial hs.within (settled_set hs.settled hbarren), ?_, ?_⟩
  · cases quote <;> simp only [State.potential, State.room, State.base, Settled.set, Settled.get,
      reduceCtorEq, if_true, if_false] <;> omega
  · simp only [State.pending, hfail, Option.toList_none, List.nil_append]

theorem stepAtEnd_follows {t : Text} {s : State} (hs : s.Valid t) (h : s.place.rest = []) :
    (stepAtEnd t.length s).Follows t s := by
  obtain ⟨mode, p, m⟩ := s
  cases mode with
  | outside =>
    show Region.items none p.offset p.rest = []
    rw [h, Region.items_none_nil]
  | inside o =>
    have hend : p.offset = t.length := offset_eq_of_rest_eq_nil hs.within h
    show Region.items (some o.region) p.offset p.rest = [.unclosed o.start t.length]
    rw [h, Opened.region, Region.items_some_nil, hend]
  | quoted o quote resume =>
    have hfail : Region.stringLength? quote.char p.rest = none := by rw [h]; rfl
    have hend : t.length ≤ p.offset := List.drop_eq_nil_iff.1 (hs.rest_eq.symm.trans h)
    have hbarren : Barren t quote resume.offset t.length :=
      fun k rest hk hkl ↦ hs.trial o quote resume rfl hfail k rest hk (Nat.lt_of_lt_of_le hkl hend)
    exact advances_resume hs hfail hbarren (by omega)

theorem stepOutside_follows {t rest : Text} {p : Place} {m : Settled} {c : Char}
    (hs : State.Valid t ⟨.outside, p, m⟩) (h : p.rest = c :: rest) :
    (stepOutside ⟨.outside, p, m⟩).Follows t ⟨.outside, p, m⟩ := by
  have hlt : p.offset < t.length := offset_lt_of_rest_eq_cons hs.rest_eq h
  cases ho : BlockKind.opening? p.rest with
  | none =>
    simp only [stepOutside, ho]
    refine ⟨valid_advance hs trivial trivial (by rw [h]; simp),
      potential_advance trivial trivial hlt Nat.one_pos, ?_⟩
    show Region.items none p.offset p.rest = Region.items none (p.offset + 1) (p.rest.drop 1)
    rw [h] at ho ⊢
    exact Region.items_outside p.offset ho
  | some found =>
    obtain ⟨kind, body⟩ := found
    have hrest : p.rest = kind.opener ++ body := BlockKind.opening?_eq_some_iff.1 ho
    have hdrop : p.rest.drop 2 = body := by rw [hrest]; cases kind <;> rfl
    simp only [stepOutside, ho]
    have htwo : 2 ≤ p.rest.length := by rw [hrest]; cases kind <;> simp [BlockKind.opener]
    refine ⟨valid_advance hs trivial trivial htwo,
      potential_advance trivial trivial hlt Nat.two_pos, ?_⟩
    show Region.items none p.offset p.rest
      = Region.items (some (kind, p.offset, body)) (p.offset + 2) (p.rest.drop 2)
    rw [hdrop, hrest, Region.items_opener]

/-- Where neither a closer stands nor a literal starts, the character is passed over. -/
theorem advances_inside {t rest : Text} {o : Opened} {p : Place} {m : Settled} {c : Char}
    (hs : State.Valid t ⟨.inside o, p, m⟩) (h : p.rest = c :: rest)
    (hcl : BlockKind.closing? p.rest = none) (hl : Region.literalAt? o.kind c rest = none) :
    Advances t ⟨.inside o, p, m⟩ ⟨.inside o, p.advance 1, m⟩ none := by
  have hlt : p.offset < t.length := offset_lt_of_rest_eq_cons hs.rest_eq h
  refine ⟨valid_advance hs trivial trivial (by rw [h]; simp),
    potential_advance trivial trivial hlt Nat.one_pos, ?_⟩
  show Region.items (some o.region) p.offset p.rest
    = Region.items (some o.region) (p.offset + 1) (p.rest.drop 1)
  rw [h] at hcl ⊢
  exact Region.items_inside o.start o.body p.offset hcl hl

/-- A quote that is not settled is tried as the start of a literal. -/
theorem advances_trial {t rest : Text} {o : Opened} {p : Place} {m : Settled} {quote : Quote}
    (hs : State.Valid t ⟨.inside o, p, m⟩) (h : p.rest = quote.char :: rest)
    (hcl : BlockKind.closing? p.rest = none) (hkind : o.kind ≠ .comment)
    (hset : m.get quote ≤ p.offset) :
    Advances t ⟨.inside o, p, m⟩ ⟨.quoted o quote (p.advance 1), p.advance 1, m⟩ none := by
  have hlt : p.offset < t.length := offset_lt_of_rest_eq_cons hs.rest_eq h
  refine ⟨⟨hs.within.advance (by show 1 ≤ p.rest.length; rw [h]; simp),
    Place.rest_advance hs.rest_eq 1, Nat.le_refl _,
    fun q ↦ (hs.settled q).mono (Nat.le_add_right _ _), ?_⟩, ?_, ?_⟩
  · -- nothing has been passed over yet
    intro o' q resume hmode _ k rest' hk hklt
    cases hmode
    exact absurd hklt (Nat.not_lt.2 hk)
  · cases quote <;> simp only [State.potential, State.room, State.base, Settled.get,
      Place.advance, reduceCtorEq, if_true, if_false] at hset ⊢ <;> omega
  · have hdrop : p.rest.drop 1 = rest := by rw [h]; rfl
    show Region.items (some o.region) p.offset p.rest = _
    simp only [State.pending, Place.advance, hdrop, Option.toList_none, List.nil_append]
    rw [h] at hcl ⊢
    have hl := Region.literalAt?_quote quote rest hkind
    cases hstr : Region.stringLength? quote.char rest with
    | some n => exact Region.items_literal o.start o.body p.offset hcl (hl.trans hstr)
    | none => exact Region.items_inside o.start o.body p.offset hcl (hl.trans hstr)

theorem stepInside_follows {t rest : Text} {o : Opened} {p : Place} {m : Settled} {c : Char}
    (hs : State.Valid t ⟨.inside o, p, m⟩) (h : p.rest = c :: rest) :
    (stepInside ⟨.inside o, p, m⟩ o c).Follows t ⟨.inside o, p, m⟩ := by
  have hlt : p.offset < t.length := offset_lt_of_rest_eq_cons hs.rest_eq h
  cases hcl : BlockKind.closing? p.rest with
  | some found =>
    obtain ⟨found, after⟩ := found
    have hrest : p.rest = found.closer ++ after := BlockKind.closing?_eq_some_iff.1 hcl
    have hdrop : p.rest.drop 2 = after := by rw [hrest]; cases found <;> rfl
    simp only [stepInside, hcl]
    have htwo : 2 ≤ p.rest.length := by rw [hrest]; cases found <;> simp [BlockKind.closer]
    refine ⟨valid_advance hs trivial trivial htwo,
      potential_advance trivial trivial hlt Nat.two_pos, ?_⟩
    show Region.items (some o.region) p.offset p.rest
      = o.close p.offset found :: Region.items none (p.offset + 2) (p.rest.drop 2)
    rw [hdrop, hrest, Opened.region, Region.items_closer]
    rfl
  | none =>
    cases hq : Quote.ofChar? c with
    | none =>
      simp only [stepInside, hcl, hq]
      exact advances_inside hs h hcl (Region.literalAt?_of_ofChar?_eq_none rest hq)
    | some quote =>
      obtain rfl := Quote.ofChar?_eq_some_iff.1 hq
      simp only [stepInside, hcl, hq]
      split
      · next hmay =>
        simp only [mayQuote, Bool.and_eq_true, bne_iff_ne, decide_eq_true_eq] at hmay
        exact advances_trial hs h hcl hmay.1 hmay.2
      · next hmay =>
        refine advances_inside hs h hcl ?_
        by_cases hkind : o.kind = .comment
        · rw [hkind, Region.literalAt?_comment]
        · have hset : p.offset < m.get quote := by
            simpa [mayQuote, hkind] using hmay
          rw [Region.literalAt?_quote quote rest hkind]
          exact hs.settled quote p.offset rest (Nat.le_refl _) hset (hs.rest_eq.symm.trans h)

/-- While the end of a literal is looked for, passing over characters that belong to it keeps the
invariant, if it keeps what is said of a failing trial. -/
theorem advances_quoted {t : Text} {o : Opened} {quote : Quote} {resume p : Place} {m : Settled}
    {n : Nat} (hs : State.Valid t ⟨.quoted o quote resume, p, m⟩) (hp : p.offset < t.length)
    (hn : 0 < n)
    (hshift : Region.stringLength? quote.char p.rest
      = (Region.stringLength? quote.char (p.rest.drop n)).map (· + n))
    (htrial : Barren t quote resume.offset p.offset →
      Region.stringLength? quote.char (p.rest.drop n) = none →
        Barren t quote resume.offset (p.offset + n)) :
    Advances t ⟨.quoted o quote resume, p, m⟩ ⟨.quoted o quote resume, p.advance n, m⟩ none := by
  have hle : resume.offset ≤ p.offset := hs.base_le
  refine ⟨⟨hs.within, Place.rest_advance hs.rest_eq n, Nat.le_trans hle (Nat.le_add_right _ _),
    hs.settled, ?_⟩, ?_, ?_⟩
  · intro o' q resume' hmode hfail
    cases hmode
    refine htrial (hs.trial o quote resume rfl ?_) hfail
    show Region.stringLength? quote.char p.rest = none
    rw [hshift, show Region.stringLength? quote.char (p.rest.drop n) = none from hfail]
    rfl
  · cases quote <;> simp only [State.potential, State.room, State.base, Place.advance,
      reduceCtorEq, if_true, if_false] <;> omega
  · simp only [State.pending, Place.advance, hshift, Option.toList_none, List.nil_append]
    cases Region.stringLength? quote.char (p.rest.drop n) with
    | none => rfl
    | some k =>
      simp only [Option.map_some, List.drop_drop]
      rw [Nat.add_comm k n, Nat.add_assoc]

theorem stepQuoted_follows {t rest : Text} {o : Opened} {quote : Quote} {resume p : Place}
    {m : Settled} {c : Char} (hs : State.Valid t ⟨.quoted o quote resume, p, m⟩)
    (h : p.rest = c :: rest) :
    (stepQuoted ⟨.quoted o quote resume, p, m⟩ o quote resume c).Follows t
      ⟨.quoted o quote resume, p, m⟩ := by
  have hlt : p.offset < t.length := offset_lt_of_rest_eq_cons hs.rest_eq h
  have hle : resume.offset ≤ p.offset := hs.base_le
  have hhere : t.drop p.offset = c :: rest := hs.rest_eq.symm.trans h
  -- A character other than the quote is no further place to start from.
  have hother : c ≠ quote.char → Barren t quote resume.offset p.offset →
      Barren t quote resume.offset (p.offset + 1) := by
    intro hne hb
    refine hb.succ fun rest' hrest' ↦ ?_
    rw [hhere] at hrest'
    exact absurd (List.cons.inj hrest').1 hne
  unfold stepQuoted
  split
  · next hc =>
    subst hc
    have hbs : '\\' ≠ quote.char := by cases quote <;> decide
    refine advances_quoted hs hlt Nat.two_pos ?_ ?_
    · rw [h, Region.stringLength?_backslash, List.drop_succ_cons]
    · intro hb hfail
      -- The escaped character may be a quote; the trial goes on just after it.
      refine (hother hbs hb).succ fun rest' hrest' ↦ ?_
      rw [← List.drop_drop, hhere] at hrest'
      rw [h, show ('\\' :: rest).drop 2 = (('\\' :: rest).drop 1).drop 1 from rfl, hrest'] at hfail
      exact hfail
  · next hbs =>
    split
    · next hc =>
      subst hc
      have hone : 1 ≤ p.rest.length := by rw [h]; simp
      have hpw : p.Within t := ⟨Nat.le_of_lt hlt, hs.rest_eq⟩
      refine ⟨valid_of_plain trivial (hpw.advance hone) (fun q ↦ (hs.settled q).mono
        (Nat.le_trans hle (Nat.le_add_right _ _))), ?_, ?_⟩
      · cases quote <;> simp only [State.potential, State.room, State.base, Settled.get,
          Place.advance, reduceCtorEq, if_true, if_false] <;> omega
      · have hn : quote.char ≠ '\n' := by cases quote <;> decide
        have hlen : Region.stringLength? quote.char p.rest = some 1 := by
          rw [h, Region.stringLength?_cons rest hn hbs, if_pos rfl]
        simp only [State.pending, hlen, Place.advance, Option.toList_none, List.nil_append]
    · next hne =>
      split
      · next hc =>
        subst hc
        have hfail : Region.stringLength? quote.char p.rest = none := by rw [h]; rfl
        exact advances_resume hs hfail (hs.trial o quote resume rfl hfail) (Nat.le_refl _)
      · next hn =>
        refine advances_quoted hs hlt Nat.one_pos ?_ (fun hb _ ↦ hother hne hb)
        rw [h, Region.stringLength?_cons rest hn hbs, if_neg hne]
        rfl

theorem step_follows {t : Text} {s : State} (hs : s.Valid t) :
    (step t.length s).Follows t s := by
  cases h : s.place.rest with
  | nil =>
    rw [step, h]
    exact stepAtEnd_follows hs h
  | cons c rest =>
    rw [step, h]
    obtain ⟨mode, p, m⟩ := s
    cases mode with
    | outside => exact stepOutside_follows hs h
    | inside o => exact stepInside_follows hs h
    | quoted o quote resume => exact stepQuoted_follows hs h

/-! ## A whole run -/

/-- **The walk reports what is still to come**, if it is granted as many steps as the potential
says. -/
theorem run_eq_pending {t : Text} {n : Nat} {s : State} (hs : s.Valid t)
    (hn : s.potential t.length ≤ n) : run t.length n s = s.pending := by
  induction n generalizing s with
  | zero => exact absurd hn (Nat.not_le.2 (potential_pos _ _))
  | succ n ih =>
    have hstep := step_follows hs
    rw [run]
    cases hout : step t.length s with
    | done report =>
      rw [hout] at hstep
      exact (show s.pending = report.toList from hstep).symm
    | next s' report =>
      rw [hout] at hstep
      have hadv : Advances t s s' report := hstep
      have hrun := ih hadv.valid (Nat.le_of_lt_succ (Nat.lt_of_lt_of_le hadv.potential_lt hn))
      rw [hadv.pending_eq, ← hrun]
      cases report <;> rfl

end Walk

namespace Text

/-- The items of a text are those that `Region.items` describes. -/
theorem items_eq_region (t : Text) : t.items = Region.items none 0 t := by
  refine Walk.run_eq_pending (Walk.valid_start t) ?_
  rw [Walk.potential_start]
  omega

/-- **The walk finds the blocks of a text.**  Going back from literals that never end, and
remembering where they were tried, changes neither the blocks that are found, nor the broken ones
that are reported, nor the order of either. -/
theorem blocks_brokenBlocks_eq_region (t : Text) :
    t.blocks = (Region.items none 0 t).filterMap Item.block? ∧
      t.brokenBlocks = (Region.items none 0 t).filterMap Item.finding? := by
  rw [blocks, brokenBlocks, items_eq_region]
  exact ⟨rfl, rfl⟩

end Text
end TemplateAssist
