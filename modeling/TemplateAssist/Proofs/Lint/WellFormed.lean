import TemplateAssist.Lint
import TemplateAssist.Proofs.Lint.MixedDelimiters
import TemplateAssist.Proofs.Lint.Pairing
import TemplateAssist.Proofs.Lint.TagBalance

/-!
# Well-formed documents lint clean

`WellFormed` is the grammar of well-formed documents: prose, expressions, comments, statements, and
statements with a body that is a document again and an end tag of its own.  No check has anything
to report for such a document.

The checks look at a document in different ways, so what makes a text harmless is said for all of
them at once, and in a form that can be put together piece by piece:

* `Silent` blocks leave the open bodies as they were and have no finding of their own;
* a `Clean` text is read as silent blocks, whatever stands after it, and mixes no delimiters;
* `Clean.append` and `Clean.body` are the two ways of building a document from smaller ones;
* `Silent.lint_eq`, `Clean.lint_eq` and `Clean.lint_eq_nil` are what it is good for.
-/

set_option autoImplicit false

namespace TemplateAssist

/-! ## Texts without findings -/

/-- Blocks that leave the open bodies as they were, and that have no finding. -/
structure Silent (settings : Settings) (bs : List Block) : Prop where
  tags : ∀ stack rest, TagBalance.check settings stack (bs ++ rest)
    = TagBalance.check settings stack rest
  pairs : ∀ b ∈ bs, Pairing.check b = []

/-- A text that can stand anywhere in a document without adding a finding. -/
structure Clean (settings : Settings) (d : Text) : Prop where
  unmixed : ∀ rest : Text, rest.Unmixed → rest.Capped → (d ++ rest).Unmixed ∧ (d ++ rest).Capped
  read : ∀ offset, ∃ bs, Silent settings bs ∧ ∀ rest, Region.items none offset (d ++ rest)
    = bs.map Item.block ++ Region.items none (offset + d.length) rest

theorem silent_nil (settings : Settings) : Silent settings [] :=
  ⟨fun _ _ ↦ rfl, fun _ hb ↦ absurd hb List.not_mem_nil⟩

/-- A block that says nothing about bodies. -/
theorem silent_of_neutral {settings : Settings} {b : Block} (he : b.event settings = .neutral)
    (hr : b.remarks settings = []) (hp : Pairing.check b = []) : Silent settings [b] where
  tags stack rest := by
    have hvisit : TagBalance.visit settings b stack = (stack, []) := by
      rw [TagBalance.visit_other stack, hr]
      · intro tag; rw [he]; exact TagBalance.Event.noConfusion
      · intro tag; rw [he]; exact TagBalance.Event.noConfusion
    rw [List.singleton_append, TagBalance.check_cons, hvisit, List.nil_append]
  pairs c hc := by
    rw [List.mem_singleton.1 hc]
    exact hp

theorem Silent.append {settings : Settings} {as bs : List Block} (ha : Silent settings as)
    (hb : Silent settings bs) : Silent settings (as ++ bs) where
  tags stack rest := by rw [List.append_assoc, ha.tags, hb.tags]
  pairs b h := by
    rcases List.mem_append.1 h with h | h
    · exact ha.pairs b h
    · exact hb.pairs b h

/-- A body between the block that opens it and the block that closes it. -/
theorem Silent.body {settings : Settings} {tag : Tag} {b e : Block} {bs : List Block}
    (hbs : Silent settings bs) (hb : b.event settings = .opens tag)
    (he : e.event settings = .closes tag) (hpb : Pairing.check b = [])
    (hpe : Pairing.check e = []) : Silent settings (b :: (bs ++ [e])) where
  tags stack rest := by
    rw [List.cons_append, TagBalance.check_cons, TagBalance.visit_opens stack hb, List.nil_append,
      List.append_assoc, hbs.tags, List.singleton_append, TagBalance.check_cons,
      TagBalance.visit_closes _ he]
    simp
  pairs c hc := by
    rcases List.mem_cons.1 hc with rfl | hc
    · exact hpb
    · rcases List.mem_append.1 hc with hc | hc
      · exact hbs.pairs c hc
      · rw [List.mem_singleton.1 hc]
        exact hpe

theorem clean_nil (settings : Settings) : Clean settings [] where
  unmixed _ h hcap := ⟨h, hcap⟩
  read _ := ⟨[], silent_nil settings, fun _ ↦ rfl⟩

theorem Clean.append {settings : Settings} {d e : Text} (hd : Clean settings d)
    (he : Clean settings e) : Clean settings (d ++ e) where
  unmixed rest h hcap := by
    obtain ⟨hun, hcap'⟩ := he.unmixed rest h hcap
    rw [List.append_assoc]
    exact hd.unmixed (e ++ rest) hun hcap'
  read offset := by
    obtain ⟨as, ha, hra⟩ := hd.read offset
    obtain ⟨bs, hb, hrb⟩ := he.read (offset + d.length)
    refine ⟨as ++ bs, ha.append hb, fun rest ↦ ?_⟩
    rw [List.append_assoc, hra, hrb, List.map_append, List.append_assoc, List.length_append,
      Nat.add_assoc]

/-- A text that is read as silent blocks, and mixes no delimiters, has no findings but those about
names that are not known. -/
theorem Silent.lint_eq {settings : Settings} {bs : List Block} {d : Text}
    (hbs : Silent settings bs) (hitems : d.items = bs.map Item.block) (hunmixed : d.Unmixed)
    (tree : VariableTree) : lint settings tree d
      = if settings.checkUndefinedVariables then undefinedVariables tree d.blocks else [] := by
  have hmixed : d.mixedDelimiters = [] := hunmixed.mixedDelimiters_eq_nil
  obtain ⟨hblocks, hbroken⟩ := Text.blocks_brokenBlocks_of_items_eq hitems
  have htags : tagBalance settings bs = [] := by
    have := hbs.tags [] []
    rwa [List.append_nil] at this
  have hpairs : pairing bs = [] := List.flatMap_eq_nil_iff.2 hbs.pairs
  simp only [lint, hmixed, hbroken, hblocks, htags, hpairs]
  cases settings.dedupeMixedDelimiters <;> rfl

theorem Clean.lint_eq {settings : Settings} {d : Text} (h : Clean settings d)
    (tree : VariableTree) : lint settings tree d
      = if settings.checkUndefinedVariables then undefinedVariables tree d.blocks else [] := by
  obtain ⟨bs, hbs, hread⟩ := h.read 0
  have hitems : d.items = bs.map Item.block := by
    have := hread []
    rw [List.append_nil, Region.items_none_nil, List.append_nil] at this
    rw [Text.items_eq_region, this]
  have hunmixed : d.Unmixed := by
    have := (h.unmixed [] .nil Text.capped_nil).1
    rwa [List.append_nil] at this
  exact hbs.lint_eq hitems hunmixed tree

/-- **A clean text has no findings** as long as no variables are known. -/
theorem Clean.lint_eq_nil {settings : Settings} {d : Text} (h : Clean settings d) :
    lint settings VariableTree.empty d = [] := by
  rw [h.lint_eq]
  split <;> rfl

/-! ## Pieces -/

theorem clean_prose (settings : Settings) {p : Text} (hp : p.BraceFree) : Clean settings p where
  unmixed _ h hcap := h.append_braceFree hcap hp
  read offset := by
    refine ⟨[], silent_nil settings, fun rest ↦ ?_⟩
    rw [Region.items_prose offset rest fun hm ↦ (hp _ hm).1 rfl]
    rfl

/-- The block that is read where a block with blanks inside its delimiters is written. -/
def BlockKind.spacedBlock (kind : BlockKind) (offset : Nat) (inner : Text) : Block :=
  Block.ofRaw kind offset (' ' :: (inner ++ [' ']))

/-- What the text inside a block has to be for the block to be read, and to mix no delimiters. -/
structure BlockKind.Holds (kind : BlockKind) (inner : Text) : Prop where
  fits : kind.Fits (' ' :: (inner ++ [' ']))
  braceFree : inner.BraceFree
  ends : kind = .expression → inner.trim.head? ≠ some '%' ∧ inner.trim.getLast? ≠ some '%'

theorem BlockKind.Holds.items_spaced {kind : BlockKind} {inner : Text} (h : kind.Holds inner)
    (offset : Nat) (rest : Text) :
    Region.items none offset (kind.spaced inner ++ rest)
      = .block (kind.spacedBlock offset inner)
        :: Region.items none (offset + (kind.spaced inner).length) rest :=
  Region.items_write offset rest h.fits

theorem clean_spaced {settings : Settings} {kind : BlockKind} {inner : Text}
    (h : kind.Holds inner) (hs : ∀ offset, Silent settings [kind.spacedBlock offset inner]) :
    Clean settings (kind.spaced inner) where
  unmixed _ hun hcap := hun.spaced hcap h.braceFree h.ends
  read offset := ⟨_, hs offset, fun rest ↦ h.items_spaced offset rest⟩

/-- A body between a statement that opens it and one that closes it. -/
theorem Clean.body {settings : Settings} {first last d : Text} (tag : Tag)
    (hd : Clean settings d) (hfirst : BlockKind.statement.Holds first)
    (hlast : BlockKind.statement.Holds last)
    (hopens : ∀ offset,
      (BlockKind.statement.spacedBlock offset first).event settings = .opens tag)
    (hcloses : ∀ offset,
      (BlockKind.statement.spacedBlock offset last).event settings = .closes tag)
    (hpairs : ∀ offset, Pairing.check (BlockKind.statement.spacedBlock offset first) = [] ∧
      Pairing.check (BlockKind.statement.spacedBlock offset last) = []) :
    Clean settings
      (BlockKind.statement.spaced first ++ (d ++ BlockKind.statement.spaced last)) where
  unmixed rest h hcap := by
    obtain ⟨hl, hlcap⟩ := h.spaced hcap hlast.braceFree hlast.ends
    obtain ⟨hi, hicap⟩ := hd.unmixed _ hl hlcap
    rw [List.append_assoc, List.append_assoc]
    exact hi.spaced hicap hfirst.braceFree hfirst.ends
  read offset := by
    obtain ⟨bs, hbs, hread⟩ := hd.read (offset + (BlockKind.statement.spaced first).length)
    have hbody := hbs.body (hopens offset)
      (hcloses (offset + (BlockKind.statement.spaced first).length + d.length))
      (hpairs _).1 (hpairs _).2
    refine ⟨_, hbody, fun rest ↦ ?_⟩
    rw [List.append_assoc, List.append_assoc, hfirst.items_spaced, hread, hlast.items_spaced]
    simp [Nat.add_assoc]

/-! ## The grammar -/

namespace WellFormed

/-- The characters of a content outside string literals. -/
def Plain (c : Char) : Prop := c ≠ '{' ∧ c ≠ '}' ∧ ∀ q : Quote, c ≠ q.char

/-- The characters inside a string literal. -/
def Quoted (c : Char) : Prop := Plain c ∧ c ≠ '\\' ∧ c ≠ '\n'

/-- The content of an expression or a statement.  Brackets count wherever they stand, also in
literals. -/
structure IsContent (c : Text) : Prop where
  content : Content Plain (fun _ ↦ Quoted) c
  parentheses : Bracket.parenthesis.Balanced c
  squares : Bracket.square.Balanced c

/-- A word that has nothing to do with bodies, and is no slip of the keyboard either. -/
structure IsOrdinary (w : Text) : Prop where
  ne_nil : w ≠ []
  word : ∀ c ∈ w, isWordChar c = true
  not_opening : ∀ tag : Tag, w ≠ tag.name.toList
  not_closing : ∀ tag : Tag, w ≠ tag.endName.toList
  not_misspelt : ∀ entry ∈ misspellings, w ≠ entry.1.toList
  not_end : ¬ "end".toList <+: w

end WellFormed

open WellFormed in
/-- The well-formed documents. -/
inductive WellFormed : Text → Prop
  | nil : WellFormed []
  | prose {p d : Text} (hp : p.BraceFree) (hd : WellFormed d) : WellFormed (p ++ d)
  | expression {c d : Text} (hc : IsContent c) (hfirst : c.trim.head? ≠ some '%')
      (hlast : c.trim.getLast? ≠ some '%') (hd : WellFormed d) :
      WellFormed (BlockKind.expression.spaced c ++ d)
  | comment {k d : Text} (hk : k.BraceFree) (hd : WellFormed d) :
      WellFormed (BlockKind.comment.spaced k ++ d)
  | statement {w c d : Text} (hw : IsOrdinary w) (hc : IsContent c) (hd : WellFormed d) :
      WellFormed (BlockKind.statement.spaced (w ++ ' ' :: c) ++ d)
  /-- A `set` with its value on the spot. -/
  | inlineSet {c d : Text} (hc : IsContent c) (hset : '=' ∈ c) (hd : WellFormed d) :
      WellFormed (BlockKind.statement.spaced ("set".toList ++ ' ' :: c) ++ d)
  | body {tag : Tag} {c inner d : Text} (hc : IsContent c) (hset : tag = .setTag → '=' ∉ c)
      (hinner : WellFormed inner) (hd : WellFormed d) :
      WellFormed (BlockKind.statement.spaced (tag.name.toList ++ ' ' :: c) ++
        (inner ++ BlockKind.statement.spaced tag.endName.toList) ++ d)

namespace WellFormed

/-! ## Contents -/

theorem plain_of_isWordChar {c : Char} (h : isWordChar c = true) : Plain c := by
  refine ⟨?_, ?_, fun q ↦ ?_⟩
  · rintro rfl; revert h; decide
  · rintro rfl; revert h; decide
  · rintro rfl; revert h; cases q <;> decide

theorem plain_blank : Plain ' ' := by
  refine ⟨by decide, by decide, fun q ↦ ?_⟩
  cases q <;> decide

theorem isContent_nil : IsContent [] := ⟨.nil, .nil, .nil⟩

/-- Characters without a meaning of their own can be put before a content. -/
theorem IsContent.append {u c : Text} (hc : IsContent c) (hu : ∀ d ∈ u, Plain d)
    (hb : ∀ b : Bracket, ∀ d ∈ u, b.has d = false) : IsContent (u ++ c) where
  content := (Content.of_plain hu).append hc.content
  parentheses := (Bracket.balanced_append (hb _)).2 hc.parentheses
  squares := (Bracket.balanced_append (hb _)).2 hc.squares

theorem IsContent.word {w c : Text} (hc : IsContent c) (hw : ∀ d ∈ w, isWordChar d = true) :
    IsContent (w ++ c) :=
  hc.append (fun d hd ↦ plain_of_isWordChar (hw d hd)) fun b d hd ↦
    b.has_of_isWordChar (hw d hd)

theorem IsContent.blank {c : Text} (hc : IsContent c) : IsContent (' ' :: c) :=
  hc.append (u := [' ']) (fun d hd ↦ by rw [List.mem_singleton.1 hd]; exact plain_blank)
    fun b d hd ↦ b.has_of_isBlank (by rw [List.mem_singleton.1 hd]; decide)

theorem IsContent.braceFree {c : Text} (hc : IsContent c) : c.BraceFree :=
  hc.content.forall_mem (fun _ h ↦ ⟨h.1, h.2.1⟩) (fun _ _ h ↦ ⟨h.1.1, h.1.2.1⟩)
    fun q ↦ by cases q <;> decide

theorem IsContent.spaced {c : Text} (hc : IsContent c) :
    Content Plain (fun _ ↦ Quoted) (' ' :: (c ++ [' '])) :=
  .char plain_blank (hc.content.append (.char plain_blank .nil))

theorem IsContent.fits {c : Text} (hc : IsContent c) {kind : BlockKind} (hk : kind ≠ .comment) :
    kind.Fits (' ' :: (c ++ [' '])) := by
  have hinert : ∀ d, Plain d → Region.Inert d := fun d hd ↦
    ⟨hd.2.1, Option.eq_none_iff_forall_ne_some.2 fun q hq ↦
      hd.2.2 q (Quote.ofChar?_eq_some_iff.1 hq)⟩
  have hquotable : ∀ q d, Quoted d → Region.Quotable q d := fun q d hd ↦
    ⟨hd.1.2.2 q, hd.2.1, hd.2.2⟩
  have hcontent := hc.spaced.mono hinert hquotable
  cases kind with
  | comment => exact absurd rfl hk
  | statement => exact hcontent
  | expression =>
    refine ⟨hcontent, ?_, ?_⟩ <;> simp [List.getLast?_cons, List.getLast?_append]

theorem IsContent.check_eq_nil {c : Text} (hc : IsContent c) (kind : BlockKind) (offset : Nat) :
    Pairing.check (kind.spacedBlock offset c) = [] := by
  refine Pairing.check_ofRaw_eq_nil (fun q ↦ ?_) fun b ↦ ?_
  · exact Pairing.count_content hc.spaced (fun d hd ↦ hd.2.2) (fun _ d hd ↦ hd.1.2.2) q
  · rw [Bracket.balanced_spaced]
    cases b with
    | parenthesis => exact hc.parentheses
    | square => exact hc.squares
    | brace =>
      refine Bracket.balanced_of_forall fun d hd ↦ ?_
      obtain ⟨ho, hcl⟩ := hc.braceFree d hd
      simp [Bracket.has, Bracket.opening, Bracket.closing, ho, hcl]

theorem IsContent.holds {c : Text} (hc : IsContent c) : BlockKind.statement.Holds c :=
  ⟨hc.fits (by decide), hc.braceFree, fun h ↦ by cases h⟩

/-! ## Statements -/

/-- The content of a statement that starts with a word, as it is read. -/
theorem content_statement {w rest : Text} (offset : Nat) (hne : w ≠ [])
    (hw : ∀ c ∈ w, isWordChar c = true) :
    (BlockKind.statement.spacedBlock offset (w ++ rest)).content
      = w ++ Text.trimRight (rest ++ [' ']) := by
  show Text.trim (' ' :: (w ++ rest ++ [' '])) = _
  rw [List.append_assoc, Text.trim_word _ hne hw]

/-- The first word of a statement ends where a blank follows. -/
theorem firstWord?_statement {w : Text} (rest : Text) (offset : Nat) (hne : w ≠ [])
    (hw : ∀ c ∈ w, isWordChar c = true) (hrest : (rest ++ [' ']).head? = some ' ') :
    firstWord? (BlockKind.statement.spacedBlock offset (w ++ rest)).content = some (0, w) := by
  rw [content_statement offset hne hw]
  refine firstWord?_append hne hw fun c hc ↦ ?_
  obtain ⟨after, hafter⟩ := Text.trimRight_prefix (rest ++ [' '])
  have hhead : (Text.trimRight (rest ++ [' ']) ++ after).head? = some c := by
    rw [List.head?_append, hc]
    rfl
  rw [hafter, hrest] at hhead
  obtain rfl := Option.some.inj hhead
  decide

theorem event_statement {settings : Settings} {w : Text} (rest : Text) (offset : Nat) (hne : w ≠ [])
    (hw : ∀ c ∈ w, isWordChar c = true) (hrest : (rest ++ [' ']).head? = some ' ') :
    (BlockKind.statement.spacedBlock offset (w ++ rest)).event settings
      = TagBalance.event settings
          (BlockKind.statement.spacedBlock offset (w ++ rest)).content w := by
  rw [Block.event, firstWord?_statement rest offset hne hw hrest]
  rfl

theorem mem_content_statement {w rest : Text} (offset : Nat) {d : Char}
    (hd : isBlank d = false) (hdw : d ∉ w) :
    d ∈ (BlockKind.statement.spacedBlock offset (w ++ rest)).content ↔ d ∈ rest := by
  show d ∈ Text.trim (' ' :: (w ++ rest ++ [' '])) ↔ _
  have hblank : d ≠ ' ' := by
    rintro rfl
    revert hd
    decide
  rw [Text.mem_trim_iff hd]
  simp [hblank, hdw]

theorem IsOrdinary.event_eq {settings : Settings} {w : Text} (h : IsOrdinary w)
    (content : Text) : TagBalance.event settings content w = .neutral := by
  have hopening : Tag.ofWord? w = none := Option.eq_none_iff_forall_ne_some.2 fun tag ht ↦
    h.not_opening tag (Tag.ofWord?_eq_some_iff.1 ht)
  have hclosing : Tag.ofEndWord? w = none := Option.eq_none_iff_forall_ne_some.2 fun tag ht ↦
    h.not_closing tag (Tag.ofEndWord?_eq_some_iff.1 ht)
  have hend : ¬ "end".toList.isPrefixOf w = true := by
    rw [List.isPrefixOf_iff_prefix]
    exact h.not_end
  simp only [TagBalance.event, hopening, hclosing, if_neg hend]

theorem IsOrdinary.meantWord? {w : Text} (h : IsOrdinary w) : meantWord? w = none := by
  rw [TemplateAssist.meantWord?, Option.map_eq_none_iff, List.find?_eq_none]
  intro entry hentry
  simpa using fun heq ↦ h.not_misspelt entry hentry heq.symm

/-- A statement whose first word opens no body adds no finding. -/
theorem clean_statement {settings : Settings} {w c : Text} (hc : IsContent c) (hne : w ≠ [])
    (hw : ∀ d ∈ w, isWordChar d = true) (hm : meantWord? w = none)
    (he : ∀ offset, TagBalance.event settings
      (BlockKind.statement.spacedBlock offset (w ++ ' ' :: c)).content w = .neutral) :
    Clean settings (BlockKind.statement.spaced (w ++ ' ' :: c)) := by
  have hcontent : IsContent (w ++ ' ' :: c) := hc.blank.word hw
  refine clean_spaced hcontent.holds fun offset ↦ ?_
  have hevent := (event_statement (' ' :: c) offset hne hw rfl).trans (he offset)
  have hword := firstWord?_statement (' ' :: c) offset hne hw rfl
  refine silent_of_neutral hevent ?_ (hcontent.check_eq_nil _ offset)
  refine TagBalance.remarks_eq_nil rfl hword hm ?_
  rw [hevent]
  exact TagBalance.Event.noConfusion

theorem isWordChar_name (tag : Tag) : ∀ c ∈ tag.name.toList, isWordChar c = true := by
  cases tag <;> exact List.all_eq_true.1 (by decide)

theorem isWordChar_endName (tag : Tag) : ∀ c ∈ tag.endName.toList, isWordChar c = true := by
  cases tag <;> exact List.all_eq_true.1 (by decide)

theorem clean_inlineSet {settings : Settings} {c : Text} (hc : IsContent c) (heq : '=' ∈ c)
    (hset : settings.inlineSetCloses = true) :
    Clean settings (BlockKind.statement.spaced ("set".toList ++ ' ' :: c)) := by
  have hword : ∀ d ∈ "set".toList, isWordChar d = true := isWordChar_name .setTag
  refine clean_statement hc (by decide) hword (by decide) fun offset ↦ ?_
  have hmem : '=' ∈ (BlockKind.statement.spacedBlock offset ("set".toList ++ ' ' :: c)).content :=
    (mem_content_statement offset (by decide) (by decide)).2 (List.mem_cons_of_mem _ heq)
  have htag : Tag.ofWord? "set".toList = some .setTag := by decide
  simp only [TagBalance.event, htag, hset, isInlineSet, List.contains_iff_mem.2 hmem]
  rfl

/-- A body between the tag that opens it, with or without a text after its name, and its end tag. -/
theorem clean_tagged {settings : Settings} {tag : Tag} {rest d : Text} (hrest : IsContent rest)
    (hhead : (rest ++ [' ']).head? = some ' ') (hset : tag = .setTag → '=' ∉ rest)
    (hd : Clean settings d) :
    Clean settings (BlockKind.statement.spaced (tag.name.toList ++ rest) ++
      (d ++ BlockKind.statement.spaced tag.endName.toList)) := by
  have hfirst : IsContent (tag.name.toList ++ rest) := hrest.word (isWordChar_name tag)
  have hlast : IsContent tag.endName.toList := by
    have := isContent_nil.word (isWordChar_endName tag)
    rwa [List.append_nil] at this
  have hname : tag.name.toList ≠ [] := by cases tag <;> decide
  have hend : tag.endName.toList ≠ [] := by cases tag <;> decide
  refine hd.body tag hfirst.holds hlast.holds (fun offset ↦ ?_) (fun offset ↦ ?_)
    fun offset ↦ ⟨hfirst.check_eq_nil _ offset, hlast.check_eq_nil _ offset⟩
  · rw [event_statement rest offset hname (isWordChar_name tag) hhead]
    refine TagBalance.event_name fun ht ↦ ?_
    rw [isInlineSet, Bool.eq_false_iff, Ne, List.contains_iff_mem,
      mem_content_statement offset (by decide) (by rw [ht]; decide)]
    exact hset ht
  · rw [← List.append_nil tag.endName.toList,
      event_statement [] offset hend (isWordChar_endName tag) rfl]
    exact TagBalance.event_endName settings _ tag

theorem clean_body {settings : Settings} {tag : Tag} {c d : Text} (hc : IsContent c)
    (hset : tag = .setTag → '=' ∉ c) (hd : Clean settings d) :
    Clean settings (BlockKind.statement.spaced (tag.name.toList ++ ' ' :: c) ++
      (d ++ BlockKind.statement.spaced tag.endName.toList)) :=
  clean_tagged hc.blank rfl (fun ht ↦ by simpa using hset ht) hd

/-! ## Documents -/

/-- The pieces of a document are clean, and so is the whole. -/
theorem clean {settings : Settings} {d : Text} (h : WellFormed d)
    (hset : settings.inlineSetCloses = true) : Clean settings d := by
  induction h with
  | nil => exact clean_nil settings
  | prose hp _ ih => exact (clean_prose settings hp).append ih
  | expression hc hfirst hlast _ ih =>
    refine (clean_spaced ⟨hc.fits (by decide), hc.braceFree, fun _ ↦ ⟨hfirst, hlast⟩⟩
      fun offset ↦ ?_).append ih
    exact silent_of_neutral rfl rfl (hc.check_eq_nil _ offset)
  | @comment k d hk _ ih =>
    have hfits : BlockKind.comment.Fits (' ' :: (k ++ [' '])) := by
      simpa [BlockKind.Fits] using fun hm ↦ (hk _ hm).2 rfl
    refine (clean_spaced ⟨hfits, hk, fun hk ↦ by cases hk⟩ fun offset ↦ ?_).append ih
    exact silent_of_neutral rfl rfl rfl
  | statement hw hc _ ih =>
    exact (clean_statement hc hw.ne_nil hw.word hw.meantWord? fun _ ↦ hw.event_eq _).append ih
  | inlineSet hc heq _ ih => exact (clean_inlineSet hc heq hset).append ih
  | body hc heq _ _ ihinner ih => exact (clean_body hc heq ihinner).append ih

/-- **Every well-formed document lints clean**, whatever the settings are otherwise. -/
theorem lint_wellFormed {settings : Settings} {d : Text}
    (hset : settings.inlineSetCloses = true) (hd : WellFormed d) :
    lint settings VariableTree.empty d = [] :=
  (hd.clean hset).lint_eq_nil

/-- `Hi {% if a["k"] %}{{ b }}{% else  %}{# ' #}{% endif %}` -/
theorem lint_wellFormed_nested :
    lint {} VariableTree.empty ("Hi ".toList ++ BlockKind.statement.spaced "if a[\"k\"]".toList
      ++ BlockKind.expression.spaced "b".toList ++ BlockKind.statement.spaced "else ".toList
      ++ BlockKind.comment.spaced "'".toList ++ BlockKind.statement.spaced "endif".toList)
      = [] := by
  have hletter : ∀ c, isWordChar c = true → Plain c := fun c ↦ plain_of_isWordChar
  have hsquare : Plain '[' ∧ Plain ']' := by
    refine ⟨⟨by decide, by decide, fun q ↦ ?_⟩, by decide, by decide, fun q ↦ ?_⟩ <;>
      cases q <;> decide
  have hliteral : ∀ c ∈ ['k'], Quoted c := by
    intro c hc
    rw [List.mem_singleton.1 hc]
    exact ⟨hletter 'k' (by decide), by decide, by decide⟩
  have hindex :
      IsContent ('a' :: '[' :: Quote.double.char :: (['k'] ++ [Quote.double.char, ']'])) :=
    ⟨.char (hletter 'a' (by decide)) (.char hsquare.1 (.literal hliteral (.char hsquare.2 .nil))),
      .nil, .pair .nil .nil⟩
  have hname : IsContent ['b'] := ⟨.char (hletter 'b' (by decide)) .nil, .nil, .nil⟩
  have helse : IsOrdinary "else".toList := by
    refine ⟨by decide, List.all_eq_true.1 (by decide), fun tag ↦ ?_, fun tag ↦ ?_, by decide,
      by decide⟩ <;> cases tag <;> decide
  have hquote : Text.BraceFree ['\''] := by simp [Text.BraceFree]
  have hprose : Text.BraceFree ['H', 'i', ' '] := by simp [Text.BraceFree]
  have hinner : WellFormed _ :=
    .expression hname (by decide) (by decide) (.statement helse isContent_nil
      (.comment hquote .nil))
  have hif : WellFormed _ := .body hindex (fun h : Tag.ifTag = .setTag ↦ by cases h) hinner .nil
  have hdocument : WellFormed _ := .prose hprose hif
  exact lint_wellFormed rfl hdocument

end WellFormed

end TemplateAssist
