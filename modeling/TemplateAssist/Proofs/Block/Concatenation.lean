import TemplateAssist.Proofs.Block.Order

/-!
# Reading one text after another

Where reading starts does not matter: the items of a text that stands further on are the same, moved
along (`Region.items_shift`).  What follows a text does matter, since a string literal may end
outside of the block in which it starts.  It does not get past the end of a line, though, unless a
backslash carries the line end along.  So after a text that ends with a plain line end
(`Text.EndsLine`), and with all its blocks closed, reading starts afresh.

* `Text.EndsLine` holds of every part that is left while such a text is read, which is why it
  includes the empty text.
* `Text.EndsLine.stringLength?_append`, `Text.EndsLine.prefix_of_append` — neither a string literal
  nor a delimiter reaches over the end.
* `Region.items_append` — reading goes on outside of all blocks.
-/

set_option autoImplicit false

namespace TemplateAssist

/-! ## Items further on -/

/-- The item moved `n` further on. -/
def Item.shift (n : Nat) : Item → Item
  | block b => block (b.shift n)
  | mismatch offset expected found => mismatch (offset + n) expected found
  | unclosed start stop => unclosed (start + n) (stop + n)

theorem Block.shift_ofRaw (n : Nat) (kind : BlockKind) (start : Nat) (raw : Text) :
    (ofRaw kind start raw).shift n = ofRaw kind (start + n) raw := by
  simp only [shift, ofRaw, Block.mk.injEq, true_and]
  omega

theorem Item.block?_shift (n : Nat) (item : Item) :
    (item.shift n).block? = item.block?.map (Block.shift n) := by
  cases item <;> rfl

theorem Item.finding?_shift (n : Nat) (item : Item) :
    (item.shift n).finding? = item.finding?.map (Diagnostic.shift n) := by
  cases item with
  | block b => rfl
  | mismatch offset expected found =>
    simp [shift, finding?, Diagnostic.shift, Span.shift, Nat.add_right_comm]
  | unclosed start stop => rfl

theorem Item.filterMap_block?_shift (n : Nat) (found : List Item) :
    (found.map (shift n)).filterMap block? = (found.filterMap block?).map (Block.shift n) := by
  rw [List.filterMap_map, List.map_filterMap]
  exact congrArg (found.filterMap ·) (funext (block?_shift n))

theorem Item.filterMap_finding?_shift (n : Nat) (found : List Item) :
    (found.map (shift n)).filterMap finding?
      = (found.filterMap finding?).map (Diagnostic.shift n) := by
  rw [List.filterMap_map, List.map_filterMap]
  exact congrArg (found.filterMap ·) (funext (finding?_shift n))

namespace Region

/-- The open block moved `n` further on. -/
def shiftOpen (n : Nat) : BlockKind × Nat × Text → BlockKind × Nat × Text
  | (kind, start, body) => (kind, start + n, body)

theorem items_of_opening? {c : Char} {rest rest' : Text} {kind : BlockKind} (offset : Nat)
    (h : BlockKind.opening? (c :: rest) = some (kind, rest')) :
    items none offset (c :: rest)
      = items (some (kind, offset, rest.drop 1)) (offset + 2) (rest.drop 1) := by
  rw [items]
  simp only [h]

theorem items_of_closing? {c : Char} {rest rest' : Text} {kind found : BlockKind} (start : Nat)
    (body : Text) (offset : Nat) (h : BlockKind.closing? (c :: rest) = some (found, rest')) :
    items (some (kind, start, body)) offset (c :: rest)
      = (if found = kind then Item.block (Block.ofRaw kind start (body.take (offset - (start + 2))))
          else Item.mismatch offset kind found) :: items none (offset + 2) (rest.drop 1) := by
  rw [items]
  simp only [h]

/-- **Reading further on** comes upon the same items, moved along. -/
theorem items_shift (n : Nat) (open? : Option (BlockKind × Nat × Text)) (offset : Nat) (t : Text) :
    items (open?.map (shiftOpen n)) (offset + n) t = (items open? offset t).map (Item.shift n) := by
  fun_induction items open? offset t with
  | case1 open? offset =>
    cases open? with
    | none => exact items_none_nil _
    | some region => exact items_some_nil _ _ _ _
  | case2 offset c rest kind rest' hkind ih =>
    rw [Option.map_none, items_of_opening? _ hkind, Nat.add_right_comm]
    exact ih
  | case3 offset c rest hnone ih =>
    rw [Option.map_none, items_outside _ hnone, Nat.add_right_comm]
    exact ih
  | case4 offset c rest kind start body found rest' hfound raw ih =>
    have hraw : body.take (offset + n - (start + n + 2)) = raw := by
      show _ = body.take (offset - (start + 2))
      congr 1
      omega
    have hitem : (if found = kind then Item.block (Block.ofRaw kind (start + n) raw)
          else Item.mismatch (offset + n) kind found)
        = (if found = kind then Item.block (Block.ofRaw kind start raw)
          else Item.mismatch offset kind found).shift n := by
      split
      · rw [← Block.shift_ofRaw]
        rfl
      · rfl
    rw [Option.map_some, shiftOpen, items_of_closing? _ _ _ hfound, hraw, hitem,
      Nat.add_right_comm, List.map_cons]
    exact congrArg _ ih
  | case5 offset c rest kind start body hnone m hm ih =>
    rw [Option.map_some, shiftOpen, items_literal _ _ _ hnone hm, Nat.add_right_comm offset n 1,
      Nat.add_right_comm (offset + 1) n m]
    exact ih
  | case6 offset c rest kind start body hnone hchar ih =>
    rw [Option.map_some, shiftOpen, items_inside _ _ _ hnone hchar, Nat.add_right_comm]
    exact ih

end Region

/-! ## Line ends -/

namespace Text

/-- The text is empty, or ends with a line end that no backslash carries along. -/
def EndsLine (t : Text) : Prop := t = [] ∨ ∃ line, t = line ++ ['\n'] ∧ line.getLast? ≠ some '\\'

namespace EndsLine

variable {t : Text} {c : Char}

theorem tail (h : EndsLine (c :: t)) : t.EndsLine := by
  obtain h | ⟨line, heq, hlast⟩ := h
  · cases h
  · cases line with
    | nil => exact .inl (List.cons.inj heq).2
    | cons d line =>
      refine .inr ⟨line, (List.cons.inj heq).2, fun hline ↦ hlast ?_⟩
      rw [List.getLast?_cons, hline]
      rfl

theorem drop (h : t.EndsLine) (n : Nat) : EndsLine (t.drop n) := by
  induction n generalizing t with
  | zero => exact h
  | succ n ih =>
    cases t with
    | nil => exact h
    | cons c t => exact ih h.tail

/-- The last character is a line end. -/
theorem eq_newline (h : EndsLine [c]) : c = '\n' := by
  obtain h | ⟨line, heq, -⟩ := h
  · cases h
  · cases line with
    | nil => exact (List.cons.inj heq).1
    | cons d line => simp at heq

/-- The last character is not carried along by a backslash. -/
theorem not_escaped : ¬ EndsLine ['\\', c] := by
  rintro (h | ⟨line, heq, hlast⟩)
  · cases h
  · have hline : line = ['\\'] := by
      have := congrArg List.dropLast heq
      simpa using this.symm
    rw [hline] at hlast
    exact hlast rfl

/-- A string literal does not reach over the end of the line. -/
theorem stringLength?_append {quote : Char} (rest : Text) (h : t.EndsLine) (hne : t ≠ []) :
    Region.stringLength? quote (t ++ rest) = Region.stringLength? quote t := by
  -- In its last two cases the recursion tells that a character is no backslash by what follows it.
  have hbackslash : ∀ (c : Char) (t : Text), (c = '\\' → t = [] → False) →
      (∀ d rest, c = '\\' → t = d :: rest → False) → c ≠ '\\' := by
    intro c t hnil hcons hc
    cases t with
    | nil => exact hnil hc rfl
    | cons d rest => exact hcons d rest hc rfl
  fun_induction Region.stringLength? quote t with
  | case1 => exact absurd rfl hne
  | case2 t => rfl
  | case3 => cases h.eq_newline
  | case4 c t ih =>
    have hne' : t ≠ [] := by
      rintro rfl
      exact not_escaped h
    rw [List.cons_append, List.cons_append, Region.stringLength?_backslash, List.drop_succ_cons,
      List.drop_zero, ih h.tail.tail hne']
  | case5 t hn hnil hcons =>
    rw [List.cons_append, Region.stringLength?_cons _ hn (hbackslash _ t hnil hcons), if_pos rfl]
  | case6 c t hn hnil hcons hquote ih =>
    have hne' : t ≠ [] := by
      rintro rfl
      exact hn h.eq_newline
    rw [List.cons_append, Region.stringLength?_cons _ hn (hbackslash c t hnil hcons),
      if_neg hquote, ih h.tail hne']

theorem literalAt?_append {kind : BlockKind} (rest : Text) (h : EndsLine (c :: t)) :
    Region.literalAt? kind c (t ++ rest) = Region.literalAt? kind c t := by
  cases hquote : Quote.ofChar? c with
  | none =>
    rw [Region.literalAt?_of_ofChar?_eq_none _ hquote,
      Region.literalAt?_of_ofChar?_eq_none _ hquote]
  | some quote =>
    have hne : t ≠ [] := by
      rintro rfl
      rw [h.eq_newline] at hquote
      cases hquote
    simp only [Region.literalAt?, hquote, Option.bind_some, h.tail.stringLength?_append rest hne]

/-- Two characters at the start, none of them a line end, do not reach over the end of the line. -/
theorem prefix_of_append {rest w : Text} (h : EndsLine (c :: t)) (hlength : w.length = 2)
    (hnewline : '\n' ∉ w) (hw : w <+: (c :: t) ++ rest) : w <+: c :: t := by
  refine List.prefix_of_prefix_length_le hw (List.prefix_append _ rest) ?_
  cases t with
  | nil =>
    cases w with
    | nil => cases hlength
    | cons d w =>
      rw [h.eq_newline, List.cons_append, List.cons_prefix_cons] at hw
      exact absurd (hw.1 ▸ List.mem_cons_self) hnewline
  | cons d t =>
    rw [hlength, List.length_cons, List.length_cons]
    omega

theorem opening?_append {rest : Text} (h : EndsLine (c :: t))
    (hnone : BlockKind.opening? (c :: t) = none) :
    BlockKind.opening? (c :: (t ++ rest)) = none := by
  refine Option.eq_none_iff_forall_ne_some.2 fun ⟨kind, after⟩ hsome ↦ ?_
  have hw : kind.opener <+: (c :: t) ++ rest :=
    ⟨after, (BlockKind.opening?_eq_some_iff.1 hsome).symm⟩
  obtain ⟨after', heq⟩ :=
    h.prefix_of_append kind.length_opener (by cases kind <;> decide) hw
  rw [BlockKind.opening?_eq_some_iff.2 heq.symm] at hnone
  cases hnone

theorem closing?_append {rest : Text} (h : EndsLine (c :: t))
    (hnone : BlockKind.closing? (c :: t) = none) :
    BlockKind.closing? (c :: (t ++ rest)) = none := by
  refine Option.eq_none_iff_forall_ne_some.2 fun ⟨kind, after⟩ hsome ↦ ?_
  have hw : kind.closer <+: (c :: t) ++ rest :=
    ⟨after, (BlockKind.closing?_eq_some_iff.1 hsome).symm⟩
  obtain ⟨after', heq⟩ :=
    h.prefix_of_append kind.length_closer (by cases kind <;> decide) hw
  rw [BlockKind.closing?_eq_some_iff.2 heq.symm] at hnone
  cases hnone

end EndsLine
end Text

/-! ## Two texts -/

namespace Region

/-- The open block of a text, when `more` is written after the text. -/
def extendOpen (more : Text) : BlockKind × Nat × Text → BlockKind × Nat × Text
  | (kind, start, body) => (kind, start, body ++ more)

/-- What stands between the delimiters of an open block is there before the text goes on. -/
theorem Reached.take_append {t rest : Text} {offset : Nat} {kind : BlockKind} {start : Nat}
    {body : Text} (h : Reached t offset rest (some (kind, start, body))) (more : Text) :
    (body ++ more).take (offset - (start + 2)) = body.take (offset - (start + 2)) := by
  obtain ⟨-, raw, rfl, rfl⟩ := h
  refine List.take_append_of_le_length ?_
  rw [List.length_append]
  omega

/-- **Reading goes on** after a text that ends with a line and has all its blocks closed. -/
theorem items_append {a t : Text} {open? : Option (BlockKind × Nat × Text)} {offset : Nat}
    (more : Text) (hr : Reading a offset t open?) (ht : t.EndsLine)
    (hclosed : ∀ start stop, .unclosed start stop ∉ items open? offset t) :
    items (open?.map (extendOpen more)) offset (t ++ more)
      = items open? offset t ++ items none a.length more := by
  fun_induction items open? offset t with
  | case1 open? offset =>
    cases open? with
    | none =>
      rw [← hr.offset_eq]
      rfl
    | some region => exact absurd List.mem_cons_self (hclosed region.2.1 offset)
  | case2 offset c rest kind rest' hkind ih =>
    have heq := BlockKind.opening?_eq_some_iff.1 hkind
    have hread := ih (hr.opener hkind) (ht.drop 2) hclosed
    rw [kind.drop_one_of_opener heq] at hread ⊢
    rw [Option.map_none, heq, List.append_assoc, items_opener]
    exact hread
  | case3 offset c rest hnone ih =>
    rw [Option.map_none, List.cons_append, items_outside _ (ht.opening?_append hnone)]
    exact ih hr.outside ht.tail hclosed
  | case4 offset c rest kind start body found rest' hfound raw ih =>
    have heq := BlockKind.closing?_eq_some_iff.1 hfound
    have hread := ih (hr.closer hfound) (ht.drop 2)
      fun start stop hmem ↦ hclosed start stop (List.mem_cons_of_mem _ hmem)
    rw [found.drop_one_of_closer heq] at hread ⊢
    rw [Option.map_some, extendOpen, heq, List.append_assoc, items_closer,
      hr.reached.take_append more, List.cons_append]
    exact congrArg _ hread
  | case5 offset c rest kind start body hnone n hn ih =>
    rw [Option.map_some, extendOpen, List.cons_append,
      items_literal _ _ _ (ht.closing?_append hnone) ((ht.literalAt?_append more).trans hn),
      List.drop_append_of_le_length (literalAt?_le hn)]
    exact ih (hr.literal hn) (ht.tail.drop n) hclosed
  | case6 offset c rest kind start body hnone hchar ih =>
    rw [Option.map_some, extendOpen, List.cons_append,
      items_inside _ _ _ (ht.closing?_append hnone) ((ht.literalAt?_append more).trans hchar)]
    exact ih hr.inside ht.tail hclosed

end Region

namespace Text

theorem items_append {a : Text} (b : Text) (ha : a.EndsLine)
    (hclosed : ∀ start stop, .unclosed start stop ∉ a.items) :
    (a ++ b).items = a.items ++ b.items.map (Item.shift a.length) := by
  rw [items_eq_region] at hclosed
  have hread := Region.items_append b (Region.reading_start a) ha hclosed
  have hshift := Region.items_shift a.length none 0 b
  rw [Nat.zero_add] at hshift
  rw [items_eq_region, items_eq_region, items_eq_region, ← hshift]
  exact hread

/-- The blocks of a text end in it. -/
theorem filter_blocks (t : Text) : t.blocks.filter (·.stop ≤ t.length) = t.blocks := by
  refine List.filter_eq_self.2 fun b hb ↦ decide_eq_true ?_
  exact (placed_of_mem_items (mem_blocks_iff.1 hb)).bounds.2

/-- No block of a text that starts at offset `n` ends up to there. -/
theorem filter_shift_blocks (n : Nat) (t : Text) :
    (t.blocks.map (Block.shift n)).filter (·.stop ≤ n) = [] := by
  refine List.filter_eq_nil_iff.2 fun c hc ↦ ?_
  obtain ⟨b, hb, rfl⟩ := List.mem_map.1 hc
  have hlt : b.start < b.stop := (placed_of_mem_items (mem_blocks_iff.1 hb)).bounds.1
  have hmoved : ¬ b.stop + n ≤ n := by omega
  exact fun hle ↦ hmoved (of_decide_eq_true hle)

/-- **Texts can be read one after the other** where a line ends: if a text ends with a line end
that is not escaped, and all its blocks are closed, then whatever is written after it is read as if
it stood alone. -/
theorem blocks_brokenBlocks_append {a : Text} (b : Text) (hend : a.getLast? = some '\n')
    (hplain : a.dropLast.getLast? ≠ some '\\')
    (hclosed : ∀ d ∈ a.brokenBlocks, d.problem ≠ .unclosedBlock) :
    (a ++ b).blocks = a.blocks ++ b.blocks.map (Block.shift a.length) ∧
      (a ++ b).brokenBlocks = a.brokenBlocks ++ b.brokenBlocks.map (Diagnostic.shift a.length) ∧
      (a ++ b).blocks.filter (·.stop ≤ a.length) = a.blocks := by
  have ha : a.EndsLine := by
    obtain ⟨line, rfl⟩ := List.getLast?_eq_some_iff.1 hend
    rw [List.dropLast_concat] at hplain
    exact .inr ⟨line, rfl, hplain⟩
  have hitems := items_append b ha fun start stop hmem ↦
    hclosed ⟨⟨start, stop⟩, .unclosedBlock, .error⟩ (List.mem_filterMap.2 ⟨_, hmem, rfl⟩) rfl
  have hblocks : (a ++ b).blocks = a.blocks ++ b.blocks.map (Block.shift a.length) := by
    rw [blocks, hitems, List.filterMap_append, Item.filterMap_block?_shift]
    rfl
  refine ⟨hblocks, ?_, ?_⟩
  · rw [brokenBlocks, hitems, List.filterMap_append, Item.filterMap_finding?_shift]
    rfl
  · rw [hblocks, List.filter_append, filter_blocks, filter_shift_blocks, List.append_nil]

/-- The quote in `{{ ' }}` starts no literal that ends on the next line. -/
theorem blocks_brokenBlocks_append_quote :
    let a : Text := BlockKind.expression.write " ' ".toList ++ ['\n']
    let b : Text := '\'' :: (BlockKind.statement.write [] ++ BlockKind.expression.opener)
    (a ++ b).blocks = a.blocks ++ b.blocks.map (Block.shift 8) ∧
      (a ++ b).brokenBlocks = a.brokenBlocks ++ b.brokenBlocks.map (Diagnostic.shift 8) ∧
      (a ++ b).blocks.filter (·.stop ≤ 8) = a.blocks ∧
      a.blocks = [⟨.expression, 0, 7, ['\''], 3⟩] := by
  intro a b
  have hbroken : a.brokenBlocks = [] := by decide +kernel
  have hclosed : ∀ d ∈ a.brokenBlocks, d.problem ≠ .unclosedBlock := by
    rw [hbroken]
    exact nofun
  obtain ⟨hblocks, hfindings, hfilter⟩ :=
    blocks_brokenBlocks_append b (by decide) (by decide) hclosed
  exact ⟨hblocks, hfindings, hfilter, by decide +kernel⟩

end Text
end TemplateAssist
