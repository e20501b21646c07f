import TemplateAssist.Lint
import TemplateAssist.Proofs.Block.Concatenation
import TemplateAssist.Proofs.Lint.MixedDelimiters

/-!
# Prose before a document

Nothing that a check looks at depends on where in the text it stands: a check of blocks that are
moved further on reports the same findings, moved along.  So prose that is put before a document
moves its findings and does nothing else, as long as no delimiter can start in the prose.

There is one lemma for each check, and for each part of one that speaks of offsets:

* `MixedPattern.spans_append` — mixed delimiters, which are looked for in the raw text;
* `Text.items_append_of_prose` — the blocks of the document, broken or not;
* `TagBalance.check_shift` — tags, with the bodies that are open moved along too;
* `pairing_shift`, `undefinedVariables_shift` — what is checked block by block;
* `lint_append_of_prose` — all of them together.
-/

set_option autoImplicit false

namespace TemplateAssist

/-! ## Spans and blocks further on -/

namespace Span

theorem overlaps_shift (n : Nat) (a b : Span Nat) :
    (a.shift n).overlaps (b.shift n) = a.overlaps b := by
  simp [overlaps, shift]

theorem before_shift (n : Nat) (a b : Span Nat) :
    (a.shift n).before (b.shift n) = a.before b := by
  simp [before, shift, Bool.beq_eq_decide_eq]

theorem shift_single (n offset : Nat) : (single offset).shift n = single (offset + n) := by
  simp [single, shift, Nat.add_right_comm]

end Span

/-- Findings that overlap are the same ones further on. -/
theorem withoutOverlaps_shift (n : Nat) (others found : List Finding) :
    withoutOverlaps (others.map (Diagnostic.shift n)) (found.map (Diagnostic.shift n))
      = (withoutOverlaps others found).map (Diagnostic.shift n) := by
  rw [withoutOverlaps, withoutOverlaps, List.filter_map]
  refine congrArg _ (List.filter_congr fun d _ ↦ ?_)
  simp [Diagnostic.shift, Span.overlaps_shift, Function.comp_def]

namespace Block

variable (n : Nat) (b : Block)

@[simp]
theorem kind_shift : (b.shift n).kind = b.kind := rfl

@[simp]
theorem content_shift : (b.shift n).content = b.content := rfl

@[simp]
theorem contentOffset_shift : (b.shift n).contentOffset = b.contentOffset + n := rfl

@[simp]
theorem span_shift : (b.shift n).span = b.span.shift n := rfl

end Block

/-! ## Mixed delimiters -/

namespace MixedPattern

theorem matchesFrom_shift (n : Nat) (p : MixedPattern) (offset skip : Nat) (t : Text) :
    p.matchesFrom (offset + n) skip t = (p.matchesFrom offset skip t).map (Span.shift n) := by
  fun_induction matchesFrom p offset skip t with
  | case1 => rfl
  | case2 offset c rest k ih => rw [matchesFrom, Nat.add_right_comm, ih]
  | case3 offset c rest k hk ih =>
    simp only [matchesFrom, hk, List.map_cons, ← ih, Span.shift]
    simp [Nat.add_right_comm]
  | case4 offset c rest hnone ih =>
    simp only [matchesFrom, hnone, ← ih, Nat.add_right_comm]

/-- No match starts in prose. -/
theorem matchesFrom_append {prose : Text} (p : MixedPattern) (offset : Nat) (t : Text)
    (hprose : ∀ c ∈ prose, c ∉ ['{', '%', '#']) :
    p.matchesFrom offset 0 (prose ++ t) = p.matchesFrom (offset + prose.length) 0 t := by
  induction prose generalizing offset with
  | nil => rfl
  | cons c prose ih =>
    obtain ⟨hc, hprose⟩ := List.forall_mem_cons.1 hprose
    simp only [List.mem_cons, List.not_mem_nil, or_false, not_or] at hc
    obtain ⟨hbrace, hpercent, hhash⟩ := hc
    have hnone := p.match?_cons_eq_none (prose ++ t) hbrace hpercent hhash
    rw [List.cons_append, matchesFrom, hnone]
    show p.matchesFrom (offset + 1) 0 (prose ++ t) = _
    rw [ih _ hprose, List.length_cons, Nat.add_assoc, Nat.add_comm 1]

theorem spans_append {prose : Text} (p : MixedPattern) (t : Text)
    (hprose : ∀ c ∈ prose, c ∉ ['{', '%', '#']) :
    p.spans (prose ++ t) = (p.spans t).map (Span.shift prose.length) := by
  rw [spans, matchesFrom_append p 0 t hprose, matchesFrom_shift]
  rfl

end MixedPattern

namespace Text

variable {prose : Text}

/-- Mixed delimiters stay in the same order further on. -/
theorem mixedDelimiters_append (t : Text) (hprose : ∀ c ∈ prose, c ∉ ['{', '%', '#']) :
    (prose ++ t).mixedDelimiters = t.mixedDelimiters.map (Diagnostic.shift prose.length) := by
  have hspans : (prose ++ t).mixedSpans = t.mixedSpans.map (Span.shift prose.length) := by
    simp only [mixedSpans, MixedPattern.spans_append _ t hprose, ← List.map_flatMap]
    exact (List.map_mergeSort fun a _ b _ ↦ (Span.before_shift _ a b).symm).symm
  rw [mixedDelimiters, mixedDelimiters, hspans, List.map_map, List.map_map]
  rfl

/-! ## Blocks -/

/-- Without opening braces before them, the blocks of a document are the same ones further on. -/
theorem items_append_of_prose (t : Text) (hprose : '{' ∉ prose) :
    (prose ++ t).items = t.items.map (Item.shift prose.length) := by
  rw [items_eq_region, items_eq_region, Region.items_prose 0 t hprose]
  exact Region.items_shift prose.length none 0 t

theorem blocks_append_of_prose (t : Text) (hprose : '{' ∉ prose) :
    (prose ++ t).blocks = t.blocks.map (Block.shift prose.length) := by
  rw [blocks, items_append_of_prose t hprose, Item.filterMap_block?_shift]
  rfl

theorem brokenBlocks_append_of_prose (t : Text) (hprose : '{' ∉ prose) :
    (prose ++ t).brokenBlocks = t.brokenBlocks.map (Diagnostic.shift prose.length) := by
  rw [brokenBlocks, items_append_of_prose t hprose, Item.filterMap_finding?_shift]
  rfl

end Text

/-! ## Tags -/

namespace TagBalance

/-- The open body moved `n` further on. -/
def Pending.shift (n : Nat) (p : Pending) : Pending := { p with span := p.span.shift n }

theorem misspelling_shift (n : Nat) (span : Span Nat) (word : Text) :
    misspelling (span.shift n) word = (misspelling span word).map (Diagnostic.shift n) := by
  cases h : meantWord? word <;> simp [misspelling, h, Diagnostic.shift]

theorem react_shift (n : Nat) (b : Block) (span : Span Nat) (word : Text) (stack : List Pending)
    (e : Event) :
    react (b.shift n) (span.shift n) word (stack.map (Pending.shift n)) e
      = ((react b span word stack e).1.map (Pending.shift n),
        (react b span word stack e).2.map (Diagnostic.shift n)) := by
  cases e with
  | opens tag => rfl
  | closes tag =>
    cases stack with
    | nil => rfl
    | cons top below =>
      by_cases htag : top.tag = tag
      · simp [react, Pending.shift, htag]
      · simp [react, Pending.shift, htag, Diagnostic.shift]
  | invalid => rfl
  | neutral => rfl

/-- One visit of a block further on, when the bodies that are open stand further on too. -/
theorem visit_shift (settings : Settings) (n : Nat) (b : Block) (stack : List Pending) :
    visit settings (b.shift n) (stack.map (Pending.shift n))
      = ((visit settings b stack).1.map (Pending.shift n),
        (visit settings b stack).2.map (Diagnostic.shift n)) := by
  have hspan : ∀ (offset : Nat) (word : Text), (⟨b.contentOffset + n + offset,
      b.contentOffset + n + offset + word.length⟩ : Span Nat)
        = Span.shift n ⟨b.contentOffset + offset, b.contentOffset + offset + word.length⟩ := by
    intro offset word
    simp only [Span.shift, Nat.add_right_comm _ n]
  simp only [visit, Block.kind_shift, Block.content_shift, Block.contentOffset_shift]
  split
  · simp only [hspan, react_shift, misspelling_shift, List.map_append]
  · rfl

theorem check_shift (settings : Settings) (n : Nat) (stack : List Pending) (blocks : List Block) :
    check settings (stack.map (Pending.shift n)) (blocks.map (Block.shift n))
      = (check settings stack blocks).map (Diagnostic.shift n) := by
  induction blocks generalizing stack with
  | nil => simp [check, Pending.shift, Pending.unclosed, Diagnostic.shift]
  | cons b blocks ih => simp only [List.map_cons, check, visit_shift, ih, List.map_append]

end TagBalance

/-! ## Quotes and brackets -/

namespace Pairing

theorem quotes_shift (n base : Nat) (content : Text) (quote : Quote) :
    quotes (base + n) content quote = (quotes base content quote).map (Diagnostic.shift n) := by
  rw [quotes, quotes]
  split
  · simp [Diagnostic.shift, Span.shift_single, Nat.add_right_comm]
  · rfl

theorem brackets_shift (n : Nat) (bracket : Bracket) (offset depth first : Nat) (t : Text) :
    brackets bracket (offset + n) depth (first + n) t
      = (brackets bracket offset depth first t).map (Diagnostic.shift n) := by
  induction t generalizing offset depth first with
  | nil => cases depth <;> simp [brackets, Diagnostic.shift, Span.shift_single]
  | cons c rest ih =>
    have hfirst : (if depth = 0 then offset + n else first + n)
        = (if depth = 0 then offset else first) + n := by split <;> rfl
    unfold brackets
    split
    · rw [hfirst, Nat.add_right_comm, ih]
    · split
      · cases depth with
        | zero =>
          simp only [List.map_cons, ← ih, Nat.add_right_comm offset n]
          simp [Diagnostic.shift, Span.shift_single]
        | succ d => simp only [Nat.add_right_comm offset n, ih]
      · rw [Nat.add_right_comm, ih]

theorem check_shift (n : Nat) (b : Block) :
    check (b.shift n) = (check b).map (Diagnostic.shift n) := by
  have hquotes : quotes (b.contentOffset + n) b.content
      = fun q ↦ (quotes b.contentOffset b.content q).map (Diagnostic.shift n) :=
    funext (quotes_shift n b.contentOffset b.content)
  by_cases hk : b.kind = .comment
  · simp [check, hk]
  · simp [check, hk, hquotes, brackets_shift, List.map_flatMap]

end Pairing

theorem pairing_shift (n : Nat) (blocks : List Block) :
    pairing (blocks.map (Block.shift n)) = (pairing blocks).map (Diagnostic.shift n) := by
  simp only [pairing, List.flatMap_map, List.map_flatMap, Pairing.check_shift]

/-! ## Names -/

namespace Reference

theorem check_shift (tree : VariableTree) (n : Nat) (b : Block) :
    check tree (b.shift n) = (check tree b).map (Diagnostic.shift n) := by
  simp only [check, Block.kind_shift, Block.content_shift, Block.contentOffset_shift]
  split
  · split
    · rfl
    · simp [Diagnostic.shift, Span.shift, Nat.add_right_comm _ n]
  · rfl

end Reference

theorem undefinedVariables_shift (tree : VariableTree) (n : Nat) (blocks : List Block) :
    undefinedVariables tree (blocks.map (Block.shift n))
      = (undefinedVariables tree blocks).map (Diagnostic.shift n) := by
  by_cases hsize : tree.size = 0
  · simp [undefinedVariables, hsize]
  · simp [undefinedVariables, hsize, List.flatMap_map, List.map_flatMap, Reference.check_shift]

/-! ## Whole documents -/

/-- **Prose before a document moves its findings**, and changes nothing else about them: they come
in the same order and report the same problems.  The prose may have anything in it with which no
delimiter starts, also quotes and closing braces. -/
theorem lint_append_of_prose (settings : Settings) (tree : VariableTree) {prose : Text} (t : Text)
    (hprose : ∀ c ∈ prose, c ∉ ['{', '%', '#']) :
    lint settings tree (prose ++ t)
      = (lint settings tree t).map (Diagnostic.shift prose.length) := by
  have hbrace : '{' ∉ prose := fun hmem ↦ hprose '{' hmem List.mem_cons_self
  simp only [lint, Text.mixedDelimiters_append t hprose, Text.blocks_append_of_prose t hbrace,
    Text.brokenBlocks_append_of_prose t hbrace, tagBalance, List.map_append, pairing_shift,
    undefinedVariables_shift, withoutOverlaps_shift]
  have htags := TagBalance.check_shift settings prose.length [] t.blocks
  rw [List.map_nil] at htags
  rw [htags, apply_ite (List.map _), apply_ite (List.map _), List.map_nil]

/-- The findings of `{{ x }}{{%` after a quote, a closing brace and a line end: the quote starts no
literal, and the brace closes nothing. -/
theorem lint_append_of_prose_quote :
    let t : Text := BlockKind.expression.spaced ['x'] ++ ['{', '{', '%']
    let tree : VariableTree := ⟨[(['a'], .array)]⟩
    lint {} tree t = [⟨⟨7, 10⟩, .mixedDelimiters, .error⟩, ⟨⟨7, 10⟩, .unclosedBlock, .error⟩,
        ⟨⟨3, 4⟩, .undefinedVariable ['x'], .error⟩] ∧
      lint {} tree (['\'', '}', '\n'] ++ t)
        = [⟨⟨10, 13⟩, .mixedDelimiters, .error⟩, ⟨⟨10, 13⟩, .unclosedBlock, .error⟩,
          ⟨⟨6, 7⟩, .undefinedVariable ['x'], .error⟩] := by
  intro t tree
  have hlint : lint {} tree t = [⟨⟨7, 10⟩, .mixedDelimiters, .error⟩,
      ⟨⟨7, 10⟩, .unclosedBlock, .error⟩, ⟨⟨3, 4⟩, .undefinedVariable ['x'], .error⟩] := by
    decide +kernel
  refine ⟨hlint, ?_⟩
  rw [lint_append_of_prose {} tree t (by simp), hlint]
  rfl

end TemplateAssist
