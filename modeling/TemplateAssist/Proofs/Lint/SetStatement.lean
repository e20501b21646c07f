import TemplateAssist.Proofs.Lint.WellFormed

/-!
# When a `set` statement needs its end tag

A `set` statement gives its variable a value on the spot, as in `set x = 1`, or opens a body that
becomes the value.  Which of the two it is has to be told from the statement.  `isInlineSet` takes
any equals sign for an assignment, wherever it stands.  This file says what follows for a `set`
statement and a body, with and without the end tag.

* `event_of_assigns`, `event_of_not_assigns` — the statement opens a body unless an equals sign
  stands in it;
* `blocks_opening`, `blocks_opening_ending` — how the two documents are read;
* `tagBalance_opening` — what is reported in either.

An argument with a name, as in `set x | f(k=v)`, has an equals sign too.  `tagBalance_namedArgument`
shows what becomes of it: the end tag is reported, and a missing one is not.
-/

set_option autoImplicit false

namespace TemplateAssist
namespace SetStatement

/-- The name of the tag with some text after it. -/
def named (c : Text) : Text := Tag.setTag.name.toList ++ ' ' :: c

/-- A `set` statement as it is written, with `c` after the name of the tag. -/
def opening (c : Text) : Text := BlockKind.statement.spaced (named c)

/-- The end tag as it is written. -/
def ending : Text := BlockKind.statement.spaced Tag.setTag.endName.toList

/-- A `set` statement with `c` after its name is taken for an assignment. -/
def Assigns (settings : Settings) (c : Text) : Prop :=
  settings.inlineSetCloses = true ∧ '=' ∈ c

/-! ## One statement -/

theorem mem_content_named {c : Text} (offset : Nat) :
    '=' ∈ (BlockKind.statement.spacedBlock offset (named c)).content ↔ '=' ∈ c := by
  rw [named, WellFormed.mem_content_statement offset (by decide) (by decide)]
  simp

theorem event_named (settings : Settings) (c : Text) (offset : Nat) :
    (BlockKind.statement.spacedBlock offset (named c)).event settings
      = TagBalance.event settings (BlockKind.statement.spacedBlock offset (named c)).content
          Tag.setTag.name.toList :=
  WellFormed.event_statement (' ' :: c) offset (by decide) (WellFormed.isWordChar_name .setTag) rfl

theorem event_of_assigns {settings : Settings} {c : Text} (offset : Nat)
    (h : Assigns settings c) :
    (BlockKind.statement.spacedBlock offset (named c)).event settings = .neutral := by
  have htag : Tag.ofWord? Tag.setTag.name.toList = some .setTag := by decide
  rw [event_named]
  simp [TagBalance.event, htag, isInlineSet, mem_content_named, h.1, h.2]

theorem event_of_not_assigns {settings : Settings} {c : Text} (offset : Nat)
    (h : ¬ Assigns settings c) :
    (BlockKind.statement.spacedBlock offset (named c)).event settings = .opens .setTag := by
  have htag : Tag.ofWord? Tag.setTag.name.toList = some .setTag := by decide
  have hsign : ¬ (settings.inlineSetCloses = true ∧ '=' ∈ c) := h
  rw [event_named]
  simp [TagBalance.event, htag, isInlineSet, mem_content_named, hsign]

/-- A statement that is taken for an assignment opens nothing, and has no finding. -/
theorem visit_of_assigns {settings : Settings} {c : Text} (offset : Nat)
    (h : Assigns settings c) (stack : List TagBalance.Pending) :
    TagBalance.visit settings (BlockKind.statement.spacedBlock offset (named c)) stack
      = (stack, []) := by
  have hevent := event_of_assigns offset h
  have hword : firstWord? (BlockKind.statement.spacedBlock offset (named c)).content
      = some (0, Tag.setTag.name.toList) :=
    WellFormed.firstWord?_statement (' ' :: c) offset (by decide)
      (WellFormed.isWordChar_name .setTag) rfl
  have hremarks := TagBalance.remarks_eq_nil rfl hword Tag.setTag.meantWord?_name
    (by rw [hevent]; exact TagBalance.Event.noConfusion)
  rw [TagBalance.visit_other stack, hremarks]
  · simp [hevent]
  · simp [hevent]

theorem event_ending (settings : Settings) (offset : Nat) :
    (BlockKind.statement.spacedBlock offset Tag.setTag.endName.toList).event settings
      = .closes .setTag := by
  rw [← List.append_nil Tag.setTag.endName.toList, WellFormed.event_statement [] offset
    (by decide) (WellFormed.isWordChar_endName .setTag) rfl, TagBalance.event_endName]

/-! ## Documents -/

theorem span_spacedBlock (offset : Nat) (inner : Text) :
    (BlockKind.statement.spacedBlock offset inner).span
      = ⟨offset, offset + (BlockKind.statement.spaced inner).length⟩ := by
  simp only [BlockKind.spacedBlock, Block.ofRaw, Block.span, BlockKind.spaced,
    BlockKind.length_write, Span.mk.injEq, true_and]
  omega

theorem fits_named {c : Text} (hc : Content Region.Inert Region.Quotable c) :
    BlockKind.statement.Fits (' ' :: (named c ++ [' '])) := by
  have hblank : Region.Inert ' ' := ⟨by decide, rfl⟩
  have hname : ∀ d ∈ Tag.setTag.name.toList, Region.Inert d := by
    simp [Tag.name, Region.Inert, Quote.ofChar?]
  exact .char hblank (((Content.of_plain hname).append (.char hblank hc)).append
    (.char hblank .nil))

theorem fits_ending : BlockKind.statement.Fits (' ' :: (Tag.setTag.endName.toList ++ [' '])) := by
  refine Content.of_plain ?_
  simp [Tag.endName, Tag.name, Region.Inert, Quote.ofChar?]

section Documents

variable {c body : Text} (hc : Content Region.Inert Region.Quotable c) (hbody : '{' ∉ body)
include hc

theorem items_opening (rest : Text) : Region.items none 0 (opening c ++ rest)
    = .block (BlockKind.statement.spacedBlock 0 (named c))
      :: Region.items none (opening c).length rest := by
  have hread : Region.items none 0 (opening c ++ rest) = _ :=
    Region.items_write 0 rest (fits_named hc)
  rw [hread, Nat.zero_add]
  rfl

include hbody

theorem blocks_opening :
    Text.blocks (opening c ++ body) = [BlockKind.statement.spacedBlock 0 (named c)] := by
  have hprose := Region.items_prose (opening c).length [] hbody
  rw [List.append_nil, Region.items_none_nil] at hprose
  refine (Text.blocks_brokenBlocks_of_items_eq ?_).1
  rw [Text.items_eq_region, items_opening hc, hprose]
  rfl

theorem blocks_opening_ending : Text.blocks (opening c ++ (body ++ ending))
    = [BlockKind.statement.spacedBlock 0 (named c),
      BlockKind.statement.spacedBlock ((opening c).length + body.length)
        Tag.setTag.endName.toList] := by
  have hending : Region.items none ((opening c).length + body.length) (ending ++ []) = _ :=
    Region.items_write _ [] fits_ending
  rw [List.append_nil, Region.items_none_nil] at hending
  refine (Text.blocks_brokenBlocks_of_items_eq ?_).1
  rw [Text.items_eq_region, items_opening hc, Region.items_prose _ _ hbody, hending]
  rfl

/-- **When a `set` statement needs its end tag.**  Where an equals sign stands anywhere in the
statement, and settings let an assignment go without an end tag, the end tag is reported, and
without it there is nothing to report.  Otherwise the end tag closes the body, and without it the
statement is reported. -/
theorem tagBalance_opening (settings : Settings) :
    let start := (opening c).length + body.length
    (Assigns settings c →
      tagBalance settings (Text.blocks (opening c ++ (body ++ ending)))
          = [⟨⟨start, start + ending.length⟩, .unexpectedEnd .setTag, .error⟩] ∧
        tagBalance settings (Text.blocks (opening c ++ body)) = []) ∧
    (¬ Assigns settings c →
      tagBalance settings (Text.blocks (opening c ++ (body ++ ending))) = [] ∧
        tagBalance settings (Text.blocks (opening c ++ body))
          = [⟨⟨0, (opening c).length⟩, .unclosedTag .setTag, .error⟩]) := by
  intro start
  have hopened := span_spacedBlock 0 (named c)
  have hended := span_spacedBlock start Tag.setTag.endName.toList
  have hevent := event_ending settings start
  rw [blocks_opening hc hbody, blocks_opening_ending hc hbody]
  simp only [tagBalance, TagBalance.check_cons]
  constructor
  · intro hassigns
    rw [visit_of_assigns 0 hassigns, TagBalance.visit_closes [] hevent]
    simp [TagBalance.check, TagBalance.unmatchedEnd, hended, ending]
  · intro hassigns
    rw [TagBalance.visit_opens [] (event_of_not_assigns 0 hassigns),
      TagBalance.visit_closes _ hevent]
    simp [TagBalance.check, TagBalance.Pending.unclosed, hopened, opening]

end Documents

/-- In `{% set x | f(k="=") %}1 = 1}{% endset %}` an equals sign names an argument, and another one
stands in a literal. -/
theorem tagBalance_opening_literal :
    let c : Text := "x | f(k=".toList ++ Quote.double.char :: (['='] ++ Quote.double.char :: [')'])
    let body : Text := "1 = 1".toList ++ ['}']
    Content Region.Inert Region.Quotable c ∧ '{' ∉ body ∧ Assigns {} c ∧
      tagBalance {} (Text.blocks (opening c ++ (body ++ ending)))
        = [⟨⟨28, 40⟩, .unexpectedEnd .setTag, .error⟩] ∧
      tagBalance {} (Text.blocks (opening c ++ body)) = [] := by
  intro c body
  have hplain : ∀ d ∈ "x | f(k=".toList, Region.Inert d := by simp [Region.Inert, Quote.ofChar?]
  have hsign : ∀ d ∈ ['='], Region.Quotable .double d := by simp [Region.Quotable, Quote.char]
  have hclosing : ∀ d ∈ [')'], Region.Inert d := by simp [Region.Inert, Quote.ofChar?]
  have hc : Content Region.Inert Region.Quotable c :=
    (Content.of_plain hplain).append (.literal hsign (.of_plain hclosing))
  have hbody : '{' ∉ body := by decide
  have hassigns : Assigns {} c := ⟨rfl, by decide⟩
  exact ⟨hc, hbody, hassigns, (tagBalance_opening hc hbody {}).1 hassigns⟩

/-- In `{% set x | f(k=v) %}b{% endset %}` the body is a filtered one, and its end tag is
reported; without the end tag nothing is. -/
theorem tagBalance_namedArgument :
    let c : Text := "x | f(k=v)".toList
    tagBalance {} (Text.blocks (opening c ++ ("b".toList ++ ending)))
        = [⟨⟨21, 33⟩, .unexpectedEnd .setTag, .error⟩] ∧
      tagBalance {} (Text.blocks (opening c ++ "b".toList)) = [] := by
  decide +kernel

end SetStatement
end TemplateAssist
