import Mathlib.Data.List.Pairwise
import TemplateAssist.Proofs.Block.Placement

/-!
# The order of the blocks in a text

Items are met from the start of a text to its end.  None overlaps another, and no opener is passed
over in silence: the first item that ends after it is a broken block, or a block that it starts or
stands in.

* `Region.Lined` is what is known of the items that are met from some offset on.  The induction
  needs the offset from which they are lined up (`Region.front`): in an open block this is its
  opener and not the current offset, since a block that is closed later starts there.
* `Region.lined_items` is the induction, and `Text.lined_items` its result for a whole text.
* `Text.WellPlaced` puts together all that is known about the offsets of a text's blocks.
* `Text.exists_brace_between` is what follows for the openers that stand before a block: each of
  them has a closing brace after it, since the item that accounts for it ends with a closer.
-/

set_option autoImplicit false

namespace TemplateAssist

/-! ## Items one after the other -/

namespace Region

/-- The offset from which the items that are still to come are lined up. -/
def front (offset : Nat) : Option (BlockKind × Nat × Text) → Nat
  | none => offset
  | some (_, start, _) => start

/-- Items that stand one after the other, all of them from offset `lo` on, and that account for
every opener from there on. -/
structure Lined (t : Text) (lo : Nat) (found : List Item) : Prop where
  le_start : ∀ item ∈ found, lo ≤ item.span.start
  ordered : found.Pairwise fun a b ↦ a.span.stop ≤ b.span.start
  /-- The first item that ends after an opener is no block that starts after it. -/
  accounts : ∀ k kind, lo ≤ k → t.HasAt k (BlockKind.opener kind) →
    ∃ item, found.find? (fun item ↦ k < item.span.stop) = some item ∧
      ∀ b, item = .block b → b.start ≤ k

theorem lined_nil {t : Text} {lo : Nat} (h : t.length ≤ lo) : Lined t lo [] where
  le_start _ hitem := absurd hitem List.not_mem_nil
  ordered := .nil
  accounts k kind hk hat := by
    have hle := hat.length_le
    rw [kind.length_opener] at hle
    omega

/-- Where no opener stands, the items may as well be lined up from there. -/
theorem Lined.pred {t : Text} {lo : Nat} {found : List Item} (h : Lined t (lo + 1) found)
    (hlo : ∀ kind, ¬ t.HasAt lo (BlockKind.opener kind)) : Lined t lo found where
  le_start item hitem := Nat.le_of_succ_le (h.le_start item hitem)
  ordered := h.ordered
  accounts k kind hk hat := by
    rcases Nat.lt_or_eq_of_le hk with hlt | rfl
    · exact h.accounts k kind hlt hat
    · exact absurd hat (hlo kind)

/-- An item before others that are lined up from its end on.  A block has to start at `lo`, for
otherwise an opener at `lo` would not be accounted for. -/
theorem Lined.cons {t : Text} {lo stop : Nat} {item : Item} {found : List Item}
    (h : Lined t stop found) (hstop : item.span.stop = stop) (hlo : lo ≤ item.span.start)
    (hlt : item.span.start < stop) (hblock : ∀ b, item = .block b → b.start = lo) :
    Lined t lo (item :: found) where
  le_start other hother := by
    rcases List.mem_cons.1 hother with rfl | hother
    · exact hlo
    · have hle := h.le_start other hother
      omega
  ordered := by
    refine List.pairwise_cons.2 ⟨fun other hother ↦ ?_, h.ordered⟩
    rw [hstop]
    exact h.le_start other hother
  accounts k kind hk hat := by
    by_cases hin : k < item.span.stop
    · refine ⟨item, List.find?_cons_of_pos (by simpa using hin), fun b hb ↦ ?_⟩
      rw [hblock b hb]
      exact hk
    · rw [List.find?_cons_of_neg (by simpa using hin)]
      exact h.accounts k kind (by omega) hat

/-- An opener at the current offset is seen. -/
theorem not_hasAt_opener {t rest : Text} {offset : Nat} (hrest : t.drop offset = rest)
    (hnone : BlockKind.opening? rest = none) (kind : BlockKind) :
    ¬ t.HasAt offset kind.opener := by
  intro hat
  obtain ⟨after, hafter⟩ := hat.exists_drop_eq
  rw [← hrest, BlockKind.opening?_eq_some_iff.2 hafter] at hnone
  cases hnone

/-- The item that a closer makes of an open block ends with the closer, and starts at the opener if
it is a block. -/
theorem Reached.span_closer {t : Text} {offset : Nat} {kind : BlockKind} {start : Nat}
    {body rest : Text} {item : Item} (h : Reached t offset rest (some (kind, start, body)))
    (found : BlockKind) (hitem : item = if found = kind then
        Item.block (Block.ofRaw kind start (body.take (offset - (start + 2))))
      else Item.mismatch offset kind found) :
    item.span.stop = offset + 2 ∧ start ≤ item.span.start ∧ item.span.start < offset + 2 ∧
      ∀ b, item = .block b → b.start = start := by
  obtain ⟨-, raw, rfl, rfl⟩ := h
  split at hitem
  · have hlength : ((raw ++ rest).take (start + 2 + raw.length - (start + 2))).length
        = raw.length := by
      rw [Nat.add_sub_cancel_left, List.take_left]
    subst hitem
    refine ⟨?_, Nat.le_refl _, ?_, ?_⟩
    · show start + 2 + _ + 2 = _
      rw [hlength]
    · show start < _
      omega
    · rintro b hb
      obtain rfl := Item.block.inj hb
      rfl
  · subst hitem
    refine ⟨rfl, ?_, ?_, nofun⟩
    · show start ≤ start + 2 + raw.length
      omega
    · show start + 2 + raw.length < start + 2 + raw.length + 2
      omega

/-- **Items are lined up** from the opener of the open block on, or from the current offset. -/
theorem lined_items {t : Text} {open? : Option (BlockKind × Nat × Text)} {offset : Nat}
    {rest : Text} (hr : Reading t offset rest open?) :
    Lined t (front offset open?) (items open? offset rest) := by
  fun_induction items open? offset rest with
  | case1 open? offset =>
    have hend : t.length ≤ offset := Nat.le_of_eq hr.offset_eq.symm
    cases open? with
    | none => exact lined_nil hend
    | some region =>
      obtain ⟨kind, start, body⟩ := region
      obtain ⟨-, raw, -, rfl⟩ := hr.reached
      refine (lined_nil hend).cons rfl (Nat.le_refl start) ?_ fun b hb ↦ by cases hb
      show start < start + 2 + raw.length
      omega
  | case2 offset c rest kind rest' hkind ih => exact ih (hr.opener hkind)
  | case3 offset c rest hnone ih =>
    exact (ih hr.outside).pred (not_hasAt_opener hr.rest_eq hnone)
  | case4 offset c rest kind start body found rest' hfound raw ih =>
    obtain ⟨hstop, hle, hlt, hblock⟩ := hr.reached.span_closer found rfl
    exact (ih (hr.closer hfound)).cons hstop hle hlt hblock
  | case5 offset c rest kind start body hnone n hn ih => exact ih (hr.literal hn)
  | case6 offset c rest kind start body hnone hchar ih => exact ih hr.inside

end Region

namespace Text

/-- The items of a text are lined up from its start. -/
theorem lined_items (t : Text) : Region.Lined t 0 t.items := by
  rw [items_eq_region]
  exact Region.lined_items (Region.reading_start t)

end Text

theorem Item.span_of_block? {item : Item} {b : Block} (h : item.block? = some b) :
    item.span = b.span := by
  cases item with
  | block b' =>
    obtain rfl := Option.some.inj h
    rfl
  | mismatch => cases h
  | unclosed => cases h

theorem Item.span_of_finding? {item : Item} {d : Finding} (h : item.finding? = some d) :
    item.span = d.span := by
  cases item with
  | block => cases h
  | mismatch =>
    obtain rfl := Option.some.inj h
    rfl
  | unclosed =>
    obtain rfl := Option.some.inj h
    rfl

theorem Item.Placed.bounds {t : Text} {item : Item} (h : item.Placed t) :
    item.span.start < item.span.stop ∧ item.span.stop ≤ t.length := by
  cases item with
  | block b =>
    obtain ⟨raw, heq, hat⟩ := h
    have hstop : b.stop = b.start + 2 + raw.length + 2 := congrArg Block.stop heq
    have hle := hat.length_le
    rw [BlockKind.length_write] at hle
    show b.start < b.stop ∧ b.stop ≤ t.length
    omega
  | mismatch offset expected found =>
    have hle := h.2.length_le
    rw [found.length_closer] at hle
    show offset < offset + 2 ∧ offset + 2 ≤ t.length
    omega
  | unclosed start stop =>
    obtain ⟨kind, raw, -, hstop, hend⟩ := h
    rw [List.length_append, kind.length_opener] at hstop
    show start < stop ∧ stop ≤ t.length
    omega

/-- An item that is not cut off by the end of the text ends with a closer. -/
theorem Item.Placed.hasAt_closer {t : Text} {item : Item} (h : item.Placed t)
    (hclosed : item.span.stop < t.length) :
    ∃ kind offset, t.HasAt offset (BlockKind.closer kind) ∧ item.span.stop = offset + 2 := by
  cases item with
  | block b =>
    obtain ⟨raw, heq, hat⟩ := h
    exact ⟨b.kind, _, hat.right.right, by
      rw [b.kind.length_opener]
      exact congrArg Block.stop heq⟩
  | mismatch offset expected found => exact ⟨found, offset, h.2, rfl⟩
  | unclosed start stop =>
    obtain ⟨kind, raw, -, -, hend⟩ := h
    exact absurd hend (Nat.ne_of_lt hclosed)

/-! ## The block that is not closed -/

/-- A block that is not closed is the last item, and the only one of its kind. -/
theorem Text.items_eq_of_unclosed_mem {t : Text} {start stop : Nat}
    (h : .unclosed start stop ∈ t.items) : ∃ others, t.items = others ++ [.unclosed start stop] ∧
      ∀ item ∈ others, item.span.stop ≤ start ∧ ∀ start' stop', item ≠ .unclosed start' stop' := by
  -- Nothing can stand after an item that runs to the end of the text.
  have hlast : ∀ start' stop' item, .unclosed start' stop' ∈ t.items → item ∈ t.items →
      ¬ stop' ≤ item.span.start := by
    intro start' stop' item hopen hitem hle
    obtain ⟨-, -, -, -, hend⟩ := placed_of_mem_items hopen
    have hbounds := (placed_of_mem_items hitem).bounds
    omega
  obtain ⟨others, later, heq⟩ := List.append_of_mem h
  have hordered := t.lined_items.ordered
  rw [heq, List.pairwise_append, List.pairwise_cons] at hordered
  obtain ⟨-, ⟨hlater, -⟩, hothers⟩ := hordered
  have hnil : later = [] := by
    refine List.eq_nil_iff_forall_not_mem.2 fun item hitem ↦ ?_
    have hmem : item ∈ t.items := by rw [heq]; simp [hitem]
    exact hlast start stop item h hmem (hlater item hitem)
  rw [hnil] at heq
  refine ⟨others, heq, fun item hitem ↦ ?_⟩
  have hle : item.span.stop ≤ start := hothers item hitem _ List.mem_cons_self
  refine ⟨hle, ?_⟩
  rintro start' stop' rfl
  have hmem : .unclosed start' stop' ∈ t.items := by rw [heq]; simp [hitem]
  exact hlast start' stop' _ hmem h hle

/-! ## Blocks in detail -/

/-- What a block says of itself is true of the text. -/
structure Block.WellPlaced (t : Text) (b : Block) : Prop where
  room : b.start + 4 ≤ b.stop
  stop_le : b.stop ≤ t.length
  opener : t.slice b.start (b.start + 2) = b.kind.opener
  closer : t.slice (b.stop - 2) b.stop = b.kind.closer
  content : b.content = (t.slice (b.start + 2) (b.stop - 2)).trim
  le_contentOffset : b.start + 2 ≤ b.contentOffset
  content_at : t.slice b.contentOffset (b.contentOffset + b.content.length) = b.content
  content_before_closer : b.contentOffset + b.content.length ≤ b.stop - 2

theorem Block.Placed.wellPlaced {t : Text} {b : Block} (h : b.Placed t) : b.WellPlaced t := by
  have hcontentAt := h.hasAt_content
  obtain ⟨raw, heq, hat⟩ := h
  have hstop : b.stop = b.start + 2 + raw.length + 2 := congrArg Block.stop heq
  have hcontent : b.content = raw.trim := congrArg Block.content heq
  have hoffset : b.contentOffset = b.start + 2 + (raw.length - raw.trimLeft.length) :=
    congrArg Block.contentOffset heq
  have hopener := hat.left.slice_eq
  have hraw := hat.right.left
  have hcloser := hat.right.right
  rw [b.kind.length_opener] at hopener hraw hcloser
  have hinner : b.stop - 2 = b.start + 2 + raw.length := by omega
  have htrim := raw.hasAt_trim.length_le
  refine ⟨by omega, ?_, hopener, ?_, ?_, by omega, hcontentAt.slice_eq, ?_⟩
  · have hle := hcloser.length_le
    rw [b.kind.length_closer] at hle
    omega
  · have hslice := hcloser.slice_eq
    rw [b.kind.length_closer] at hslice
    rw [hinner, hstop, hslice]
  · rw [hinner, hraw.slice_eq, hcontent]
  · rw [hcontent, hoffset]
    omega

/-! ## The whole text -/

namespace Text

/-- How the blocks and the broken blocks of a text stand in it. -/
structure WellPlaced (t : Text) : Prop where
  /-- Every block is what it says. -/
  blocks_wellPlaced : ∀ b ∈ t.blocks, b.WellPlaced t
  /-- Taken together, blocks and broken blocks stand one after the other. -/
  items_ordered : t.items.Pairwise fun a b ↦ a.span.stop ≤ b.span.start
  blocks_ordered : t.blocks.Pairwise fun a b ↦ a.stop ≤ b.start
  brokenBlocks_ordered : t.brokenBlocks.Pairwise fun d e ↦ d.span.stop ≤ e.span.start
  disjoint : ∀ b ∈ t.blocks, ∀ d ∈ t.brokenBlocks, b.stop ≤ d.span.start ∨ d.span.stop ≤ b.start
  /-- A block that is not closed comes after everything else. -/
  unclosed_last : ∀ d ∈ t.brokenBlocks, d.problem = .unclosedBlock →
    (∀ b ∈ t.blocks, b.stop ≤ d.span.start) ∧
      ∃ others, t.brokenBlocks = others ++ [d] ∧ ∀ e ∈ others, e.problem ≠ .unclosedBlock
  /-- The first item that ends after an opener is a broken block, or a block that does not start
  after the opener. -/
  openers_kept : ∀ k kind, t.slice k (k + 2) = BlockKind.opener kind →
    ∃ item, t.items.find? (fun item ↦ k < item.span.stop) = some item ∧
      ∀ b, item = .block b → b.start ≤ k

/-- Of two different items, one stands before the other. -/
theorem before_or_after {t : Text} {a b : Item} (ha : a ∈ t.items) (hb : b ∈ t.items)
    (hne : a ≠ b) : a.span.stop ≤ b.span.start ∨ b.span.stop ≤ a.span.start := by
  have hsymm : Std.Symm fun a b : Item ↦
      a.span.stop ≤ b.span.start ∨ b.span.stop ≤ a.span.start := ⟨fun _ _ h ↦ h.symm⟩
  have hpairs : t.items.Pairwise fun a b ↦
      a.span.stop ≤ b.span.start ∨ b.span.stop ≤ a.span.start := t.lined_items.ordered.imp Or.inl
  exact hpairs.forall ha hb hne

theorem pairwise_blocks (t : Text) : t.blocks.Pairwise fun a b ↦ a.stop ≤ b.start := by
  refine List.pairwise_filterMap.2 (t.lined_items.ordered.imp fun h a ha b hb ↦ ?_)
  rw [Item.span_of_block? ha, Item.span_of_block? hb] at h
  exact h

theorem pairwise_brokenBlocks (t : Text) :
    t.brokenBlocks.Pairwise fun d e ↦ d.span.stop ≤ e.span.start := by
  refine List.pairwise_filterMap.2 (t.lined_items.ordered.imp fun h d hd e he ↦ ?_)
  rw [Item.span_of_finding? hd, Item.span_of_finding? he] at h
  exact h

theorem block_before_or_after {t : Text} {b : Block} {d : Finding} (hb : b ∈ t.blocks)
    (hd : d ∈ t.brokenBlocks) : b.stop ≤ d.span.start ∨ d.span.stop ≤ b.start := by
  obtain ⟨item, hitem, hfinding⟩ := List.mem_filterMap.1 hd
  have hne : .block b ≠ item := by
    rintro rfl
    cases hfinding
  have hspans := before_or_after (mem_blocks_iff.1 hb) hitem hne
  rw [Item.span_of_finding? hfinding] at hspans
  exact hspans

theorem unclosed_last {t : Text} {d : Finding} (hd : d ∈ t.brokenBlocks)
    (hproblem : d.problem = .unclosedBlock) : (∀ b ∈ t.blocks, b.stop ≤ d.span.start) ∧
      ∃ others, t.brokenBlocks = others ++ [d] ∧ ∀ e ∈ others, e.problem ≠ .unclosedBlock := by
  obtain ⟨item, hitem, hfinding⟩ := List.mem_filterMap.1 hd
  cases item with
  | block => cases hfinding
  | mismatch =>
    obtain rfl := Option.some.inj hfinding
    cases hproblem
  | unclosed start stop =>
    obtain ⟨others, heq, hothers⟩ := items_eq_of_unclosed_mem hitem
    obtain rfl := Option.some.inj hfinding
    refine ⟨fun b hb ↦ ?_, others.filterMap Item.finding?, ?_, fun e he ↦ ?_⟩
    · have hmem : .block b ∈ others := by
        have hblock := mem_blocks_iff.1 hb
        rw [heq] at hblock
        simpa using hblock
      exact (hothers _ hmem).1
    · rw [brokenBlocks, heq, List.filterMap_append]
      rfl
    · obtain ⟨other, hother, he⟩ := List.mem_filterMap.1 he
      cases other with
      | block => cases he
      | mismatch =>
        obtain rfl := Option.some.inj he
        exact Problem.noConfusion
      | unclosed start' stop' => exact absurd rfl ((hothers _ hother).2 start' stop')

/-- **Blocks and broken blocks are well placed** in every text. -/
theorem blocks_brokenBlocks_wellPlaced (t : Text) : t.WellPlaced where
  blocks_wellPlaced _ hb := (placed_of_mem_blocks hb).wellPlaced
  items_ordered := t.lined_items.ordered
  blocks_ordered := t.pairwise_blocks
  brokenBlocks_ordered := t.pairwise_brokenBlocks
  disjoint _ hb _ hd := block_before_or_after hb hd
  unclosed_last _ hd hproblem := unclosed_last hd hproblem
  openers_kept k kind hslice := by
    have hlength := congrArg List.length hslice
    rw [slice, List.length_drop, List.length_take, kind.length_opener] at hlength
    have hat : t.HasAt k kind.opener := by
      rw [← hslice]
      exact hasAt_slice (Nat.le_add_right k 2) (by omega)
    exact t.lined_items.accounts k kind (Nat.zero_le k) hat

/-- In `{{ "{%" }}{# %}{% x` the first opener of a statement stands in an expression, and the
second one starts a block that is not closed. -/
theorem blocks_brokenBlocks_wellPlaced_quotedOpener :
    let literal : Text := '"' :: (BlockKind.statement.opener ++ ['"'])
    let t : Text := BlockKind.expression.spaced literal ++ BlockKind.comment.opener
      ++ ' ' :: BlockKind.statement.closer ++ BlockKind.statement.opener ++ " x".toList
    t.blocks = [⟨.expression, 0, 10, literal, 3⟩] ∧
      t.brokenBlocks = [⟨⟨13, 15⟩, .mismatchedCloser .comment .statement, .error⟩,
        ⟨⟨15, 19⟩, .unclosedBlock, .error⟩] ∧ t.WellPlaced := by
  intro literal t
  have hblocks : t.blocks = [⟨.expression, 0, 10, literal, 3⟩] := by decide +kernel
  have hbroken : t.brokenBlocks = [⟨⟨13, 15⟩, .mismatchedCloser .comment .statement, .error⟩,
      ⟨⟨15, 19⟩, .unclosedBlock, .error⟩] := by decide +kernel
  exact ⟨hblocks, hbroken, t.blocks_brokenBlocks_wellPlaced⟩

/-! ## Openers before a block -/

/-- The first item to end after an opener before a block ends before that block. -/
theorem exists_item_between {t : Text} {b : Block} (hb : b ∈ t.blocks) {k : Nat}
    {kind : BlockKind} (hat : t.HasAt k kind.opener) (hk : k < b.start) :
    ∃ item ∈ t.items, k < item.span.stop ∧ item.span.stop ≤ b.start := by
  obtain ⟨item, hfirst, hstart⟩ := t.lined_items.accounts k kind (Nat.zero_le k) hat
  obtain ⟨hin, earlier, later, heq, hearlier⟩ := List.find?_eq_some_iff_append.1 hfirst
  have hordered := t.lined_items.ordered
  rw [heq, List.pairwise_append, List.pairwise_cons] at hordered
  refine ⟨item, List.mem_of_find?_eq_some hfirst, by simpa using hin, ?_⟩
  have hblock := mem_blocks_iff.1 hb
  rw [heq, List.mem_append, List.mem_cons] at hblock
  rcases hblock with hblock | hblock | hblock
  · -- Before the first such item there is none that ends after the opener.
    have hends : ¬ k < (Item.block b).span.stop := by simpa using hearlier _ hblock
    have hlt : b.start < b.stop := (placed_of_mem_items (mem_blocks_iff.1 hb)).bounds.1
    exact absurd (Nat.lt_trans hk hlt) hends
  · have hle := hstart b hblock.symm
    omega
  · exact hordered.2.1.1 _ hblock

/-- An opener before a block is followed by a closing brace before that block. -/
theorem exists_brace_between {t : Text} {b : Block} (hb : b ∈ t.blocks) {k : Nat}
    {kind : BlockKind} (hat : t.HasAt k kind.opener) (hk : k < b.start) :
    ∃ j, k + 2 ≤ j ∧ j < b.start ∧ t[j]? = some '}' := by
  obtain ⟨item, hitem, hin, hle⟩ := exists_item_between hb hat hk
  have hbounds := (placed_of_mem_items (mem_blocks_iff.1 hb)).bounds
  have hlt : b.start < t.length := Nat.lt_of_lt_of_le hbounds.1 hbounds.2
  obtain ⟨found, offset, hcloser, hstop⟩ :=
    (placed_of_mem_items hitem).hasAt_closer (Nat.lt_of_le_of_lt hle hlt)
  obtain ⟨c, hc, hcbrace⟩ : ∃ c, found.closer = [c, '}'] ∧ c ≠ '{' := by
    cases found <;> exact ⟨_, rfl, by decide⟩
  obtain ⟨d, hd⟩ : ∃ d, kind.opener = ['{', d] := by
    cases kind <;> exact ⟨_, rfl⟩
  rw [hc] at hcloser
  rw [hd] at hat
  have hopening := hat.getElem?_eq
  have hclosing : t[offset + 1]? = some '}' := hcloser.tail.getElem?_eq
  -- The opener starts with neither character of the closer.
  have hfirst : k ≠ offset := by
    rintro rfl
    rw [hcloser.getElem?_eq] at hopening
    exact hcbrace (Option.some.inj hopening)
  have hsecond : k ≠ offset + 1 := by
    rintro rfl
    rw [hclosing] at hopening
    cases hopening
  exact ⟨offset + 1, by omega, by omega, hclosing⟩

end Text
end TemplateAssist
