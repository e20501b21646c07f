import TemplateAssist.Proofs.Block.Written
import TemplateAssist.Proofs.Text.Occurrence
import TemplateAssist.Proofs.Text.Trim

/-!
# Where the blocks of a text stand

Each item that is read from a text carries offsets, and these are places in the text where the
item really stands (`Item.Placed`): a block is written there from its opener to its closer, a
mismatch is at the closer that was found, and a block that is not closed runs from its opener to
the end of the text.

* `Region.placed_of_mem_items` follows this along the recursion.  What carries the induction is
  `Region.Reached`: what is left of the text stands at the current offset, and in an open block
  everything since its opener does.  `Region.Reading` adds that nothing of the text is forgotten;
  it is kept by each step of the recursion.
* `Text.placed_of_mem_blocks` is the result for blocks.
* `Block.Placed.hasAt_content` adds where the trimmed content of a block stands, and
  `Block.Placed.exists_blanks` what stands before it.
-/

set_option autoImplicit false

namespace TemplateAssist

/-! ## Placed items -/

/-- A block stands in the text as it was written, between the delimiters of its kind. -/
def Block.Placed (t : Text) (b : Block) : Prop :=
  ∃ raw, b = .ofRaw b.kind b.start raw ∧ t.HasAt b.start (b.kind.write raw)

/-- An item stands in the text where it says. -/
def Item.Placed (t : Text) : Item → Prop
  | block b => b.Placed t
  | mismatch offset expected found => found ≠ expected ∧ t.HasAt offset found.closer
  | unclosed start stop =>
    ∃ kind raw, t.HasAt start (BlockKind.opener kind ++ raw) ∧
      start + (kind.opener ++ raw).length = stop ∧ stop = t.length

theorem BlockKind.length_opener (kind : BlockKind) : kind.opener.length = 2 := by
  cases kind <;> rfl

theorem BlockKind.length_closer (kind : BlockKind) : kind.closer.length = 2 := by
  cases kind <;> rfl

theorem BlockKind.drop_one_of_opener {kind : BlockKind} {c : Char} {rest rest' : Text}
    (h : c :: rest = kind.opener ++ rest') : rest.drop 1 = rest' := by
  have hdrop := congrArg (List.drop 2) h
  rwa [← kind.length_opener, List.drop_left, kind.length_opener] at hdrop

theorem BlockKind.drop_one_of_closer {kind : BlockKind} {c : Char} {rest rest' : Text}
    (h : c :: rest = kind.closer ++ rest') : rest.drop 1 = rest' := by
  have hdrop := congrArg (List.drop 2) h
  rwa [← kind.length_closer, List.drop_left, kind.length_closer] at hdrop

namespace Region

/-- What is known of the text at `offset`, with `rest` left to read: in an open block, all that
was read since its opener is still known. -/
def Reached (t : Text) (offset : Nat) (rest : Text) : Option (BlockKind × Nat × Text) → Prop
  | none => t.HasAt offset rest
  | some (kind, start, body) => t.HasAt start (kind.opener ++ body) ∧
      ∃ raw, body = raw ++ rest ∧ start + 2 + raw.length = offset

theorem Reached.hasAt {t rest : Text} {offset : Nat} {open? : Option (BlockKind × Nat × Text)}
    (h : Reached t offset rest open?) : t.HasAt offset rest := by
  cases open? with
  | none => exact h
  | some region =>
    obtain ⟨kind, start, body⟩ := region
    obtain ⟨hopen, raw, rfl, rfl⟩ := h
    rw [← kind.length_opener]
    exact hopen.right.right

/-- An open block goes on over `n` characters. -/
theorem Reached.advance {t rest : Text} {offset n : Nat} {kind : BlockKind} {start : Nat}
    {body : Text} (h : Reached t offset rest (some (kind, start, body))) (hn : n ≤ rest.length) :
    Reached t (offset + n) (rest.drop n) (some (kind, start, body)) := by
  obtain ⟨hopen, raw, rfl, rfl⟩ := h
  refine ⟨hopen, raw ++ rest.take n, ?_, ?_⟩
  · rw [List.append_assoc, List.take_append_drop]
  · rw [List.length_append, List.length_take_of_le hn]
    omega

theorem literalAt?_le {kind : BlockKind} {c : Char} {rest : Text} {n : Nat}
    (h : literalAt? kind c rest = some n) : n ≤ rest.length := by
  rw [literalAt?] at h
  split at h
  · cases h
  · obtain ⟨quote, -, hq⟩ := Option.bind_eq_some_iff.1 h
    exact stringLength?_le hq

/-- The closer of an open block stands right after what was read of the block. -/
theorem Reached.placed_closer {t : Text} {offset : Nat} {kind found : BlockKind} {start : Nat}
    {body rest : Text} (h : Reached t offset (found.closer ++ rest) (some (kind, start, body))) :
    (if found = kind then Item.block (Block.ofRaw kind start (body.take (offset - (start + 2))))
      else Item.mismatch offset kind found).Placed t := by
  split
  · next heq =>
    subst heq
    obtain ⟨hopen, raw, rfl, rfl⟩ := h
    have hraw :
        (raw ++ (found.closer ++ rest)).take (start + 2 + raw.length - (start + 2)) = raw := by
      rw [Nat.add_sub_cancel_left, List.take_left]
    refine ⟨raw, by rw [hraw]; rfl, ?_⟩
    rw [← List.append_assoc raw, ← List.append_assoc] at hopen
    exact hopen.left
  · next hne => exact ⟨hne, h.hasAt.left⟩

/-- Reading has come to `offset`, and `rest` is all that is left of the text. -/
structure Reading (t : Text) (offset : Nat) (rest : Text)
    (open? : Option (BlockKind × Nat × Text)) : Prop where
  reached : Reached t offset rest open?
  rest_eq : t.drop offset = rest

theorem reading_start (t : Text) : Reading t 0 t none := ⟨t.hasAt_self, rfl⟩

section

variable {t rest rest' : Text} {offset n : Nat} {c : Char} {kind found : BlockKind} {start : Nat}
  {body : Text} {open? : Option (BlockKind × Nat × Text)}

theorem Reading.offset_eq (h : Reading t offset [] open?) : offset = t.length := by
  have hle := h.reached.hasAt.length_le
  have hge := List.drop_eq_nil_iff.1 h.rest_eq
  exact Nat.le_antisymm hle hge

theorem Reading.drop_eq (h : Reading t offset rest open?) (n : Nat) :
    t.drop (offset + n) = rest.drop n := by
  rw [← List.drop_drop, h.rest_eq]

theorem Reading.opener (h : Reading t offset (c :: rest) none)
    (hkind : BlockKind.opening? (c :: rest) = some (kind, rest')) :
    Reading t (offset + 2) (rest.drop 1) (some (kind, offset, rest.drop 1)) := by
  have heq := BlockKind.opening?_eq_some_iff.1 hkind
  have hat : t.HasAt offset (c :: rest) := h.reached
  refine ⟨⟨?_, [], rfl, rfl⟩, h.drop_eq 2⟩
  rwa [kind.drop_one_of_opener heq, ← heq]

theorem Reading.outside (h : Reading t offset (c :: rest) none) :
    Reading t (offset + 1) rest none :=
  ⟨h.reached.tail, h.drop_eq 1⟩

theorem Reading.closer (h : Reading t offset (c :: rest) open?)
    (hfound : BlockKind.closing? (c :: rest) = some (found, rest')) :
    Reading t (offset + 2) (rest.drop 1) none := by
  have heq := BlockKind.closing?_eq_some_iff.1 hfound
  have hat : t.HasAt offset (found.closer ++ rest') := heq ▸ h.reached.hasAt
  refine ⟨?_, h.drop_eq 2⟩
  rw [found.drop_one_of_closer heq, ← found.length_closer]
  exact hat.right

theorem Reading.literal (h : Reading t offset (c :: rest) (some (kind, start, body)))
    (hn : literalAt? kind c rest = some n) :
    Reading t (offset + 1 + n) (rest.drop n) (some (kind, start, body)) := by
  have hle := literalAt?_le hn
  have hskip := h.reached.advance (n := n + 1) (by rw [List.length_cons]; omega)
  have hrest := h.drop_eq (n + 1)
  rw [Nat.add_comm n 1, ← Nat.add_assoc, Nat.add_comm 1 n, List.drop_succ_cons] at hskip hrest
  exact ⟨hskip, hrest⟩

theorem Reading.inside (h : Reading t offset (c :: rest) (some (kind, start, body))) :
    Reading t (offset + 1) rest (some (kind, start, body)) :=
  ⟨h.reached.advance (n := 1) (by rw [List.length_cons]; omega), h.drop_eq 1⟩

end

/-- **Every item is placed.** -/
theorem placed_of_mem_items {t : Text} {open? : Option (BlockKind × Nat × Text)} {offset : Nat}
    {rest : Text} (hr : Reading t offset rest open?) :
    ∀ item ∈ items open? offset rest, item.Placed t := by
  fun_induction items open? offset rest with
  | case1 open? offset =>
    intro item hitem
    obtain ⟨⟨kind, start, body⟩, rfl, rfl⟩ := Option.map_eq_some_iff.1 (Option.mem_toList.1 hitem)
    have hend := hr.offset_eq
    obtain ⟨hopen, raw, rfl, hoffset⟩ := hr.reached
    rw [List.append_nil] at hopen
    refine ⟨kind, raw, hopen, ?_, hend⟩
    rw [List.length_append, kind.length_opener, ← hoffset, Nat.add_assoc]
  | case2 offset c rest kind rest' hkind ih => exact ih (hr.opener hkind)
  | case3 offset c rest hnone ih => exact ih hr.outside
  | case4 offset c rest kind start body found rest' hfound raw ih =>
    intro item hitem
    rcases List.mem_cons.1 hitem with rfl | hitem
    · have hreached := hr.reached
      rw [BlockKind.closing?_eq_some_iff.1 hfound] at hreached
      exact hreached.placed_closer
    · exact ih (hr.closer hfound) item hitem
  | case5 offset c rest kind start body hnone n hn ih => exact ih (hr.literal hn)
  | case6 offset c rest kind start body hnone hchar ih => exact ih hr.inside

end Region

/-! ## The blocks and broken blocks of a text -/

namespace Text

theorem placed_of_mem_items {t : Text} {item : Item} (h : item ∈ t.items) : item.Placed t := by
  rw [items_eq_region] at h
  exact Region.placed_of_mem_items (Region.reading_start t) item h

theorem mem_blocks_iff {t : Text} {b : Block} : b ∈ t.blocks ↔ .block b ∈ t.items := by
  rw [blocks, List.mem_filterMap]
  constructor
  · rintro ⟨item, hitem, hb⟩
    cases item with
    | block b' =>
      obtain rfl := Option.some.inj hb
      exact hitem
    | mismatch => cases hb
    | unclosed => cases hb
  · intro hb
    exact ⟨.block b, hb, rfl⟩

theorem placed_of_mem_blocks {t : Text} {b : Block} (h : b ∈ t.blocks) : b.Placed t :=
  placed_of_mem_items (mem_blocks_iff.1 h)

end Text

/-- The trimmed text stands in a text after the blanks that it starts with. -/
theorem Text.hasAt_trim (t : Text) : t.HasAt (t.length - t.trimLeft.length) t.trim := by
  have hsuffix : t.HasAt (t.length - t.trimLeft.length) t.trimLeft := by
    have hdrop := t.hasAt_self.drop (n := t.length - t.trimLeft.length) (Nat.sub_le _ _)
    rwa [← trimLeft_eq_drop, Nat.zero_add] at hdrop
  have hprefix : t.trimLeft.HasAt 0 t.trim :=
    ⟨[], t.trimLeft.trailing isBlank, (beforeTrailing_append_trailing isBlank t.trimLeft).symm, rfl⟩
  exact hsuffix.trans hprefix

/-- The content of a block stands at its offset, inside of the delimiters. -/
theorem Block.Placed.hasAt_content {t : Text} {b : Block} (h : b.Placed t) :
    t.HasAt b.contentOffset b.content := by
  obtain ⟨raw, heq, hraw⟩ := h
  rw [heq]
  show t.HasAt (b.start + 2 + (raw.length - raw.trimLeft.length)) raw.trim
  rw [← b.kind.length_opener]
  exact hraw.right.left.trans raw.hasAt_trim

/-- Between the opener of a block and its content there are blanks only. -/
theorem Block.Placed.exists_blanks {t : Text} {b : Block} (h : b.Placed t) :
    ∃ pre : Text, (∀ c ∈ pre, isBlank c = true) ∧ t.HasAt (b.start + 2) (pre ++ b.content) ∧
      b.start + 2 + (pre ++ b.content).length ≤ b.stop - 2 := by
  obtain ⟨raw, heq, hat⟩ := h
  obtain ⟨pre, post, hsplit, hpre, -⟩ := raw.exists_blanks_trim
  have hcontent : b.content = raw.trim := congrArg Block.content heq
  have hstop : b.stop = b.start + 2 + raw.length + 2 := congrArg Block.stop heq
  rw [← hcontent, ← List.append_assoc] at hsplit
  have hraw := hat.right.left
  rw [b.kind.length_opener, hsplit] at hraw
  refine ⟨pre, hpre, hraw.left, ?_⟩
  have hlength := congrArg List.length hsplit
  rw [List.length_append] at hlength
  omega

end TemplateAssist
