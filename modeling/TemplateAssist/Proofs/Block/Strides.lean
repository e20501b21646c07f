import TemplateAssist.Proofs.Block.Placement
import TemplateAssist.Proofs.Block.Progress

/-!
# What the walk meets in a block

Inside a block, reading goes from one character to the next, and from the quote that starts a
string literal to just after the literal.  These strides are determined by the text alone, and the
walk, with its trials and its way back from them, makes them and no others.

* `Region.stride` is one stride, and `Region.Meets` has the offsets where the strides of a block
  lead to.  They form one chain (`Region.Meets.le_or_stride_le`).
* `Walk.Tracks` relates the walk to them: in a block it has come to where a stride ends, and it has
  been wherever one ended before.  `Walk.Visits.tracks` shows it of every state that the walk comes
  to; while a literal is tried out, it is still to be decided how far the stride leads (`Trying`).
* `Text.exists_tracks_of_mem_blocks` follows the walk to where a block of the text is closed, so
  that in such a block the walk is in no string literal exactly where the strides lead to
  (`Block.metAt_iff`).
* Up to the first quote the strides go from character to character, so no closer stands there
  (`Block.closer_not_infix`).
-/

set_option autoImplicit false

namespace TemplateAssist
namespace Region

/-! ## Strides -/

/-- Where reading a block of some kind goes on after the character at offset `i`.  It does not at a
closer and at the end of the text. -/
def stride (t : Text) (kind : BlockKind) (i : Nat) : Option Nat :=
  match t.drop i with
  | [] => none
  | c :: rest =>
    match BlockKind.closing? (c :: rest) with
    | some _ => none
    | none => some (i + 1 + (literalAt? kind c rest).getD 0)

/-- Reading the block that is opened at `start` comes to offset `k`, in no string literal. -/
def Meets (t : Text) (kind : BlockKind) (start k : Nat) : Prop :=
  Relation.ReflTransGen (fun i j ↦ stride t kind i = some j) (start + 2) k

section

variable {t rest : Text} {kind : BlockKind} {start i j k : Nat} {c : Char}

theorem stride_of_drop_eq (hrest : t.drop i = c :: rest)
    (hnone : BlockKind.closing? (c :: rest) = none) :
    stride t kind i = some (i + 1 + (literalAt? kind c rest).getD 0) := by
  simp only [stride, hrest, hnone]

theorem exists_of_stride_eq (h : stride t kind i = some j) :
    ∃ c rest, t.drop i = c :: rest ∧ BlockKind.closing? (c :: rest) = none ∧
      j = i + 1 + (literalAt? kind c rest).getD 0 := by
  rw [stride] at h
  split at h
  · cases h
  · next c rest hrest =>
    split at h
    · cases h
    · next hnone => exact ⟨c, rest, hrest, hnone, (Option.some.inj h).symm⟩

theorem stride_of_closing? {found : BlockKind × Text}
    (h : BlockKind.closing? (t.drop i) = some found) : stride t kind i = none := by
  rw [stride]
  split
  · rfl
  · next c rest hrest =>
    rw [hrest] at h
    rw [h]

theorem lt_of_stride_eq (h : stride t kind i = some j) : i < j := by
  obtain ⟨c, rest, -, -, rfl⟩ := exists_of_stride_eq h
  omega

theorem le_of_strides (h : Relation.ReflTransGen (fun i j ↦ stride t kind i = some j) i j) :
    i ≤ j := by
  induction h with
  | refl => exact Nat.le_refl _
  | tail _ hstride ih => exact Nat.le_trans ih (Nat.le_of_lt (lt_of_stride_eq hstride))

theorem Meets.start_le (h : Meets t kind start k) : start + 2 ≤ k := le_of_strides h

/-- **Strides form one chain**: what else is met is met before the stride from `i`, or after it. -/
theorem Meets.le_or_stride_le (hi : Meets t kind start i) (hk : Meets t kind start k) :
    k ≤ i ∨ ∃ j, stride t kind i = some j ∧ j ≤ k := by
  have hunique : Relator.RightUnique fun i j ↦ stride t kind i = some j :=
    fun _ _ _ hb hc ↦ Option.some.inj (hb.symm.trans hc)
  rcases Relation.ReflTransGen.total_of_right_unique hunique hi hk with hik | hki
  · rcases Relation.ReflTransGen.cases_head hik with rfl | ⟨j, hstride, hjk⟩
    · exact .inl (Nat.le_refl _)
    · exact .inr ⟨j, hstride, le_of_strides hjk⟩
  · exact .inl (le_of_strides hki)

/-- Where no stride goes on, all strides have ended. -/
theorem Meets.stride_le (hk : Meets t kind start k) (hstride : stride t kind k = some j)
    (hi : Meets t kind start i) (hend : stride t kind i = none) : j ≤ i := by
  obtain hik | ⟨j', hstride', hle⟩ := hk.le_or_stride_le hi
  · obtain hki | ⟨j', hstride', -⟩ := hi.le_or_stride_le hk
    · obtain rfl := Nat.le_antisymm hik hki
      rw [hend] at hstride
      cases hstride
    · rw [hend] at hstride'
      cases hstride'
  · rw [hstride, Option.some_inj] at hstride'
    exact hstride' ▸ hle

/-- Before the end of a block no closer is met. -/
theorem Meets.closing?_eq_none (hk : Meets t kind start k) (hi : Meets t kind start i)
    (hlt : k < i) : BlockKind.closing? (t.drop k) = none := by
  refine Option.eq_none_iff_forall_ne_some.2 fun found hfound ↦ ?_
  obtain hle | ⟨j, hstride, -⟩ := hk.le_or_stride_le hi
  · omega
  · rw [stride_of_closing? hfound] at hstride
    cases hstride

/-- Up to the first quote of a block, every character is met. -/
theorem Meets.of_unquoted {u : Text} (hi : Meets t kind start i) (hat : t.HasAt (start + 2) u)
    (hquotes : ∀ c ∈ u, Quote.ofChar? c = none) (hle : start + 2 + u.length ≤ i) {n : Nat}
    (hn : n ≤ u.length) : Meets t kind start (start + 2 + n) := by
  induction n with
  | zero => exact .refl
  | succ n ih =>
    have hmeets := ih (by omega)
    obtain hle' | ⟨j, hstride, -⟩ := hmeets.le_or_stride_le hi
    · omega
    · obtain ⟨c, rest, hrest, -, rfl⟩ := exists_of_stride_eq hstride
      have hc : c ∈ u.drop 0 := by
        refine hat.mem_drop (j := start + 2 + n) ?_ (by omega) (by omega)
        rw [← List.head?_drop, hrest]
        rfl
      rw [literalAt?_of_ofChar?_eq_none rest (hquotes c hc)] at hstride
      exact hmeets.tail hstride

end

end Region

namespace Walk

/-! ## The walk makes strides -/

/-- In an open block, the walk follows the strides up to offset `k`: it comes to all that is met. -/
structure Tracks (t : Text) (o : Opened) (k : Nat) : Prop where
  opener : t.drop o.start = o.kind.opener ++ o.body
  meets : Region.Meets t o.kind o.start k
  visits : ∀ i ≤ k, Region.Meets t o.kind o.start i →
    ∃ rest m, Visits t ⟨.inside o, ⟨i, rest⟩, m⟩

/-- A string literal is being tried out from the quote at offset `k`.  How it goes on decides
whether there is one. -/
structure Trying (t : Text) (quote : Quote) (resume p : Place) (k : Nat) : Prop where
  resume_eq : resume.offset = k + 1
  quote_at : t.drop k = quote.char :: resume.rest
  length_eq : Region.stringLength? quote.char resume.rest
    = (Region.stringLength? quote.char p.rest).map (· + (p.offset - resume.offset))

/-- What is known of the way to a state. -/
def State.Tracks (t : Text) (s : State) : Prop :=
  match s.mode with
  | .outside => True
  | .inside o => Walk.Tracks t o s.place.offset
  | .quoted o quote resume => o.kind ≠ .comment ∧
      ∃ k, Walk.Tracks t o k ∧ Trying t quote resume s.place k

section

variable {t : Text} {s s' : State} {o : Opened} {quote : Quote} {resume p : Place} {m : Settled}
  {k : Nat}

theorem closing?_quote (quote : Quote) (rest : Text) :
    BlockKind.closing? (quote.char :: rest) = none := by
  cases quote <;> rfl

theorem stringLength?_quote (quote : Quote) (rest : Text) :
    Region.stringLength? quote.char (quote.char :: rest) = some 1 := by
  rw [Region.stringLength?_cons rest (by cases quote <;> decide) (by cases quote <;> decide),
    if_pos rfl]

/-- What is settled is no literal. -/
theorem literalAt?_of_settled (hs : State.Valid t ⟨.inside o, p, m⟩) {c : Char} {rest : Text}
    (hrest : p.rest = c :: rest)
    (h : ∀ quote, c = Quote.char quote → o.kind = .comment ∨ p.offset < m.get quote) :
    Region.literalAt? o.kind c rest = none := by
  cases hq : Quote.ofChar? c with
  | none => exact Region.literalAt?_of_ofChar?_eq_none rest hq
  | some quote =>
    obtain rfl := Quote.ofChar?_eq_some_iff.1 hq
    by_cases hkind : o.kind = .comment
    · rw [hkind, Region.literalAt?_comment]
    · have hlt := (h quote rfl).resolve_left hkind
      rw [Region.literalAt?_quote quote rest hkind]
      exact hs.settled quote p.offset rest (Nat.le_refl _) hlt (hs.rest_eq.symm.trans hrest)

/-- Going on in a trial. -/
theorem Trying.advance {n : Nat} (h : Trying t quote resume p k) (hle : resume.offset ≤ p.offset)
    (hlength : Region.stringLength? quote.char p.rest
      = (Region.stringLength? quote.char (p.rest.drop n)).map (· + n)) :
    Trying t quote resume (p.advance n) k := by
  refine ⟨h.resume_eq, h.quote_at, ?_⟩
  rw [h.length_eq, hlength, Option.map_map]
  show _ = (Region.stringLength? quote.char (p.rest.drop n)).map
    (· + (p.offset + n - resume.offset))
  congr 1
  funext i
  show i + n + (p.offset - resume.offset) = i + (p.offset + n - resume.offset)
  omega

/-- How a trial ends makes a stride. -/
theorem Trying.stride {kind : BlockKind} (h : Trying t quote resume p k)
    (hkind : kind ≠ .comment) : Region.stride t kind k
      = some (resume.offset + ((Region.stringLength? quote.char p.rest).map
          (· + (p.offset - resume.offset))).getD 0) := by
  rw [Region.stride_of_drop_eq h.quote_at (closing?_quote quote resume.rest),
    Region.literalAt?_quote quote resume.rest hkind, h.length_eq, h.resume_eq]

/-- The walk makes one more stride. -/
theorem Tracks.stride {j : Nat} {rest : Text} (h : Tracks t o k)
    (hstride : Region.stride t o.kind k = some j)
    (hvisits : Visits t ⟨.inside o, ⟨j, rest⟩, m⟩) : Tracks t o j := by
  refine ⟨h.opener, h.meets.tail hstride, fun i hi hmeets ↦ ?_⟩
  obtain hle | ⟨j', hstride', hle⟩ := h.meets.le_or_stride_le hmeets
  · exact h.visits i hle hmeets
  · obtain rfl := Option.some.inj (hstride.symm.trans hstride')
    obtain rfl := Nat.le_antisymm hi hle
    exact ⟨rest, m, hvisits⟩

/-- The walk enters a block. -/
theorem tracks_opens {kind : BlockKind} {body : Text} (hs : State.Valid t ⟨.outside, p, m⟩)
    (hopen : BlockKind.opening? p.rest = some (kind, body))
    (hvisits : Visits t ⟨.inside ⟨kind, p.offset, body⟩, p.advance 2, m⟩) :
    Tracks t ⟨kind, p.offset, body⟩ (p.offset + 2) := by
  refine ⟨?_, .refl, fun i hi hmeets ↦ ?_⟩
  · exact hs.rest_eq.symm.trans (BlockKind.opening?_eq_some_iff.1 hopen)
  · obtain rfl := Nat.le_antisymm hi hmeets.start_le
    exact ⟨_, m, hvisits⟩

/-- **The walk makes strides** in every block that it comes to. -/
theorem Visits.tracks (h : Visits t s) : s.Tracks t := by
  induction h with
  | refl => trivial
  | tail hvisits hstep ih =>
    have hvalid := Visits.valid hvisits
    have hvisits' := Relation.ReflTransGen.tail hvisits hstep
    obtain ⟨report, hstep⟩ := hstep
    cases moves_of_step hstep with
    | outside | closes => trivial
    | opens hopen => exact tracks_opens hvalid hopen hvisits'
    | @inside o p m c rest hrest hnone hquote =>
      have htracks : Tracks t o p.offset := ih
      have hhere : t.drop p.offset = c :: rest := hvalid.rest_eq.symm.trans hrest
      refine htracks.stride ?_ hvisits'
      rw [Region.stride_of_drop_eq hhere (hrest ▸ hnone), literalAt?_of_settled hvalid hrest hquote]
      rfl
    | @tries o p m quote rest hrest hnone hkind hsettled =>
      have htracks : Tracks t o p.offset := ih
      have hdrop : (p.advance 1).rest = rest := by rw [Place.advance, hrest]; rfl
      refine ⟨hkind, p.offset, htracks, rfl, ?_, ?_⟩
      · exact (hvalid.rest_eq.symm.trans hrest).trans (by rw [hdrop])
      · simp
    | @escapes o quote resume p m rest hrest =>
      obtain ⟨hkind, k, htracks, htrying⟩ := ih
      refine ⟨hkind, k, htracks, htrying.advance hvalid.base_le ?_⟩
      rw [hrest, Region.stringLength?_backslash, List.drop_succ_cons]
    | @quoted o quote resume p m c rest hrest hbackslash hquote hnewline =>
      obtain ⟨hkind, k, htracks, htrying⟩ := ih
      refine ⟨hkind, k, htracks, htrying.advance hvalid.base_le ?_⟩
      rw [hrest, Region.stringLength?_cons rest hnewline hbackslash, if_neg hquote]
      rfl
    | @unquotes o quote resume p m rest hrest =>
      -- the stride from the first quote leads over the whole literal
      obtain ⟨hkind, k, htracks, htrying⟩ := ih
      have hle : resume.offset ≤ p.offset := hvalid.base_le
      refine htracks.stride ?_ hvisits'
      rw [htrying.stride hkind, hrest, stringLength?_quote, Option.map_some, Option.getD_some]
      show some (resume.offset + (1 + (p.offset - resume.offset))) = some (p.offset + 1)
      congr 1
      omega
    | @rewinds o quote resume p m stop hstop =>
      -- there is no literal, so the stride leads over the quote alone, to where the walk goes back
      obtain ⟨hkind, k, htracks, htrying⟩ := ih
      have hnone : Region.stringLength? quote.char p.rest = none := by
        obtain ⟨hrest, -⟩ | ⟨rest, hrest, -⟩ := hstop
        · rw [hrest, Region.stringLength?_nil]
        · rw [hrest, Region.stringLength?_newline]
      refine htracks.stride ?_ hvisits'
      rw [htrying.stride hkind, hnone]
      rfl

/-- What has been read of an open block. -/
theorem Tracks.take_body (h : Tracks t o k) :
    o.body.take (k - (o.start + 2)) = t.slice (o.start + 2) k := by
  have hbody : t.drop (o.start + 2) = o.body := by
    rw [← List.drop_drop, h.opener, ← o.kind.length_opener, List.drop_left]
  rw [Text.slice, List.drop_take, hbody]

/-- What stands at an offset says which block is open there. -/
theorem Tracks.opened_eq {o' : Opened} {i j : Nat} (h : Tracks t o i) (h' : Tracks t o' j)
    (hstart : o.start = o'.start) : o = o' := by
  have hopener := h.opener
  rw [hstart, h'.opener, ← BlockKind.opening?_eq_some_iff,
    BlockKind.opening?_eq_some_iff.2 rfl] at hopener
  obtain ⟨kind, start, body⟩ := o
  obtain ⟨kind', start', body'⟩ := o'
  simp_all

end

/-! ## Where a block is closed -/

section

variable {t : Text} {b : Block}

/-- The step that ends the walk reports no block. -/
theorem step_ne_done_block (length : Nat) (s : State) :
    step length s ≠ .done (some (.block b)) := by
  intro h
  rw [step] at h
  split at h
  · rw [stepAtEnd] at h
    split at h <;> cases h
  · split at h
    · rw [stepOutside] at h
      split at h <;> cases h
    · simp only [stepInside] at h
      split at h
      · cases h
      · split at h
        · split at h <;> cases h
        · cases h
    · rw [stepQuoted] at h
      split at h
      · cases h
      · split at h
        · cases h
        · split at h <;> cases h

/-- A block is reported by a step that goes on. -/
theorem Ends.exists_step {n : Nat} {s : State} {items : List Item} (h : Ends t n s items)
    (hvisits : Visits t s) (hb : .block b ∈ items) :
    ∃ s s', Visits t s ∧ step t.length s = .next s' (some (.block b)) := by
  induction h with
  | @done s report hstep =>
    rw [Option.mem_toList] at hb
    obtain rfl := hb
    exact absurd hstep (step_ne_done_block _ _)
  | @next n s s' report items hstep _ ih =>
    rcases List.mem_append.1 hb with hb | hb
    · rw [Option.mem_toList] at hb
      obtain rfl := hb
      exact ⟨s, s', hvisits, hstep⟩
    · exact ih (hvisits.step hstep) hb

end

end Walk

/-- The walk follows the strides of every block of the text up to its closer. -/
theorem Text.exists_tracks_of_mem_blocks {t : Text} {b : Block} (h : b ∈ t.blocks) :
    ∃ o k, Walk.Tracks t o k ∧ Region.stride t o.kind k = none ∧ b = o.toBlock k := by
  rw [mem_blocks_iff, items_eq_region] at h
  obtain ⟨n, -, hends⟩ := Walk.exists_ends (Walk.valid_start t)
  obtain ⟨s, s', hvisits, hstep⟩ := hends.exists_step (Walk.visits_start t) h
  have hvalid := hvisits.valid
  have htracks := hvisits.tracks
  generalize hreport : some (Item.block b) = report at hstep
  cases Walk.moves_of_step hstep with
  | outside | opens | inside | tries | escapes | quoted | unquotes | rewinds => cases hreport
  | @closes o p m found after hclose =>
    rw [Option.some_inj, Walk.Opened.close] at hreport
    split at hreport
    · exact ⟨o, p.offset, htracks, Region.stride_of_closing? (hvalid.rest_eq ▸ hclose),
        Item.block.inj hreport⟩
    · cases hreport

/-- The strides of a block lead up to its closer. -/
theorem Text.exists_meets_of_mem_blocks {t : Text} {b : Block} (h : b ∈ t.blocks) :
    ∃ close, Region.Meets t b.kind b.start close ∧ b.stop ≤ close + 2 := by
  obtain ⟨o, close, htracks, -, rfl⟩ := exists_tracks_of_mem_blocks h
  refine ⟨close, htracks.meets, ?_⟩
  have hle := htracks.meets.start_le
  have htake := List.length_take_le (close - (o.start + 2)) o.body
  show o.start + 2 + (o.body.take (close - (o.start + 2))).length + 2 ≤ close + 2
  omega

theorem Quote.ofChar?_of_isBlank {c : Char} (h : isBlank c = true) : Quote.ofChar? c = none := by
  refine Option.eq_none_iff_forall_ne_some.2 fun quote hquote ↦ ?_
  rw [Quote.ofChar?_eq_some_iff.1 hquote] at h
  cases quote <;> exact absurd h (by decide)

/-- Before the first quote in it, the content of a block holds no closer. -/
theorem Block.closer_not_infix {t : Text} {b : Block} (h : b ∈ t.blocks) {u : Text}
    (hu : u <+: b.content) (hquotes : ∀ c ∈ u, Quote.ofChar? c = none) (found : BlockKind) :
    ¬ found.closer <:+: u := by
  rintro ⟨before, after, rfl⟩
  obtain ⟨close, hclose, hstop⟩ := Text.exists_meets_of_mem_blocks h
  obtain ⟨pre, hpre, hat, hroom⟩ := (Text.placed_of_mem_blocks h).exists_blanks
  obtain ⟨rest, hrest⟩ := hu
  rw [← hrest, ← List.append_assoc] at hat hroom
  rw [List.length_append] at hroom
  -- the blanks before the content hold no quotes either, so reading comes to the closer
  have hunquoted : ∀ c ∈ pre ++ (before ++ found.closer ++ after), Quote.ofChar? c = none := by
    intro c hc
    rcases List.mem_append.1 hc with hc | hc
    · exact Quote.ofChar?_of_isBlank (hpre c hc)
    · exact hquotes c hc
  have hlength : (pre ++ (before ++ found.closer ++ after)).length
      = (pre ++ before).length + 2 + after.length := by
    simp only [List.length_append, found.length_closer]
    omega
  have hmeets := hclose.of_unquoted hat.left hunquoted (n := (pre ++ before).length) (by omega)
    (by omega)
  have hcloser : t.HasAt (b.start + 2 + (pre ++ before).length) found.closer := by
    have hread := hat.left
    rw [List.append_assoc before, ← List.append_assoc pre] at hread
    exact hread.right.left
  obtain ⟨rest', hdrop⟩ := hcloser.exists_drop_eq
  have hnone := hmeets.closing?_eq_none hclose (by omega)
  rw [hdrop, BlockKind.closing?_eq_some_iff.2 rfl] at hnone
  cases hnone

/-- While it reads the block, the walk comes to offset `k`, and it is in no string literal then. -/
def Block.MetAt (t : Text) (b : Block) (k : Nat) : Prop :=
  ∃ o rest m, Walk.Visits t ⟨.inside o, ⟨k, rest⟩, m⟩ ∧ o.start = b.start

/-- **The walk is in no string literal exactly where the strides lead to.** -/
theorem Block.metAt_iff {t : Text} {b : Block} (h : b ∈ t.blocks) {k : Nat} :
    b.MetAt t k ↔ Region.Meets t b.kind b.start k := by
  obtain ⟨o, close, htracks, hend, rfl⟩ := Text.exists_tracks_of_mem_blocks h
  constructor
  · rintro ⟨o', rest, m, hvisits, hstart⟩
    have htracks' : Walk.Tracks t o' k := hvisits.tracks
    obtain rfl := htracks'.opened_eq htracks hstart
    exact htracks'.meets
  · intro hmeets
    obtain hle | ⟨j, hstride, -⟩ := htracks.meets.le_or_stride_le hmeets
    · obtain ⟨rest, m, hvisits⟩ := htracks.visits k hle hmeets
      exact ⟨o, rest, m, hvisits, rfl⟩
    · rw [hend] at hstride
      cases hstride

end TemplateAssist
