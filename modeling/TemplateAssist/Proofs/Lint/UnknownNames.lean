import Mathlib.Data.List.Forall2
import TemplateAssist.Lint.UndefinedVariables
import TemplateAssist.Proofs.Block.Order
import TemplateAssist.Proofs.Block.Strides
import TemplateAssist.Proofs.Cursor.Path

/-!
# Which names are reported as unknown

The check of names looks at each expression on its own.  `Required` says which expressions have to
start from a known name, and `Unknown` which of them do not.

* `undefinedVariables_eq_map` — there is one finding for each expression that starts from an
  unknown name.  The name is looked for in the content of the block once more, and since the
  content is trimmed, it stands right at the start (`root_base_prefix_trim`).
* `exists_undefinedVariable_iff` — what can be reported as a name.  An expression is taken for a
  reference as long as some characters are not in it, so a name need not be a word: operators,
  signs and braces can be part of it.
-/

set_option autoImplicit false

namespace TemplateAssist

theorem VariableTree.contains_iff {tree : VariableTree} {name : Text} :
    tree.contains name = true ↔ name ∈ tree.names :=
  List.contains_iff_mem

namespace Reference

/-! ## Literals -/

/-- One or more decimal digits. -/
def Digits (t : Text) : Prop := t ≠ [] ∧ ∀ c ∈ t, isDecimalDigit c = true

/-- The literals: numbers, perhaps with a fraction, and the words for constants in either case. -/
inductive Literal : Text → Prop
  | whole {t : Text} (h : Digits t) : Literal t
  | decimal {whole fraction : Text} (hwhole : Digits whole) (hfraction : Digits fraction) :
      Literal (whole ++ '.' :: fraction)
  | constant {word t : Text} (hword : word ∈ ["true".toList, "false".toList, "none".toList])
      (h : List.Forall₂ (fun letter c ↦ spells letter c = true) word t) : Literal t

theorem digits_iff {t : Text} : (!t.isEmpty && t.all isDecimalDigit) = true ↔ Digits t := by
  simp [Digits]

theorem Digits.dot_not_mem {t : Text} (h : Digits t) : '.' ∉ t :=
  fun hmem ↦ absurd (h.2 _ hmem) (by decide)

theorem isNumber_iff {t : Text} : isNumber t = true ↔ Digits t ∨
    ∃ whole fraction, Digits whole ∧ Digits fraction ∧ t = whole ++ '.' :: fraction := by
  constructor
  · intro h
    have hjoin : ['.'].intercalate (t.splitOn '.') = t := List.intercalate_splitOn '.'
    rw [isNumber] at h
    split at h
    · next whole hpieces =>
      rw [hpieces, List.intercalate_singleton] at hjoin
      exact .inl (hjoin ▸ digits_iff.1 h)
    · next whole fraction hpieces =>
      rw [hpieces, List.intercalate_cons_cons, List.intercalate_singleton, List.append_assoc,
        List.singleton_append] at hjoin
      rw [Bool.and_assoc, Bool.and_eq_true, digits_iff, digits_iff] at h
      exact .inr ⟨whole, fraction, h.1, h.2, hjoin.symm⟩
    · cases h
  · rintro (h | ⟨whole, fraction, hwhole, hfraction, rfl⟩)
    · rw [isNumber, List.splitOn_eq_singleton h.dot_not_mem]
      exact digits_iff.2 h
    · rw [isNumber, List.splitOn_append_cons_self, List.splitOn_eq_singleton hwhole.dot_not_mem,
        List.splitOn_eq_singleton hfraction.dot_not_mem]
      show (!whole.isEmpty && whole.all isDecimalDigit && !fraction.isEmpty
        && fraction.all isDecimalDigit) = true
      rw [Bool.and_assoc, Bool.and_eq_true, digits_iff, digits_iff]
      exact ⟨hwhole, hfraction⟩

theorem spellsWord_iff {word t : Text} : spellsWord word t = true ↔
    List.Forall₂ (fun letter c ↦ spells letter c = true) word t := by
  rw [spellsWord, Bool.and_eq_true, beq_iff_eq, List.all_eq_true, List.forall₂_iff_zip]
  simp only [Prod.forall]

theorem isLiteral_iff {t : Text} : isLiteral t = true ↔ Literal t := by
  simp only [isLiteral, Bool.or_eq_true, isNumber_iff, spellsWord_iff]
  constructor
  · rintro (((h | h) | h) | h)
    · rcases h with h | ⟨whole, fraction, hwhole, hfraction, rfl⟩
      · exact .whole h
      · exact .decimal hwhole hfraction
    all_goals exact .constant (by decide) h
  · intro h
    cases h with
    | whole h => exact .inl (.inl (.inl (.inl h)))
    | decimal hwhole hfraction => exact .inl (.inl (.inl (.inr ⟨_, _, hwhole, hfraction, rfl⟩)))
    | constant hword h =>
      simp only [List.mem_cons, List.not_mem_nil, or_false] at hword
      rcases hword with rfl | rfl | rfl
      · exact .inl (.inl (.inr h))
      · exact .inl (.inr h)
      · exact .inr h

/-! ## Expressions that start from an unknown name -/

/-- The content of an expression is a plain reference, so that its root has to be known. -/
structure Required (content : Text) : Prop where
  base_ne_nil : base content ≠ []
  plain : ∀ c ∈ base content, c ∉ ['[', '"', '\'', '('] ∧ isBlank c = false
  not_literal : ¬ Literal (base content)
  root_ne_nil : root (base content) ≠ []
  not_builtin : root (base content) ∉ ["loop".toList, "super".toList]

theorem isPlain_iff {expression : Text} : isPlain expression = true ↔
    (∀ c ∈ expression, c ∉ ['[', '"', '\'', '('] ∧ isBlank c = false) ∧
      ¬ Literal expression ∧ root expression ∉ ["loop".toList, "super".toList] := by
  simp [isPlain, builtinNames, ← isLiteral_iff, and_assoc]

theorem required?_eq_some_iff {content name : Text} :
    required? content = some name ↔ Required content ∧ name = root (base content) := by
  simp only [required?, Option.ite_none_right_eq_some, Bool.and_eq_true, isPlain_iff,
    Bool.not_eq_true', List.isEmpty_eq_false_iff, Option.some_inj]
  constructor
  · rintro ⟨⟨⟨hbase, hplain, hliteral, hbuiltin⟩, hroot⟩, rfl⟩
    exact ⟨⟨hbase, hplain, hliteral, hroot, hbuiltin⟩, rfl⟩
  · rintro ⟨h, rfl⟩
    exact ⟨⟨⟨h.base_ne_nil, h.plain, h.not_literal, h.not_builtin⟩, h.root_ne_nil⟩, rfl⟩

theorem isSome_required?_iff {content : Text} :
    (required? content).isSome = true ↔ Required content := by
  rw [Option.isSome_iff_exists]
  constructor
  · rintro ⟨name, h⟩
    exact (required?_eq_some_iff.1 h).1
  · intro h
    exact ⟨_, required?_eq_some_iff.2 ⟨h, rfl⟩⟩

instance (content : Text) : Decidable (Required content) :=
  decidable_of_iff _ isSome_required?_iff

/-- The block is an expression that starts from an unknown name. -/
structure Unknown (tree : VariableTree) (b : Block) : Prop where
  expression : b.kind = .expression
  required : Required b.content
  not_known : root (base b.content) ∉ tree.names

theorem unknown_iff {tree : VariableTree} {b : Block} :
    (b.kind = .expression ∧ Required b.content ∧ tree.contains (root (base b.content)) = false) ↔
      Unknown tree b := by
  rw [Bool.eq_false_iff, Ne, VariableTree.contains_iff]
  exact ⟨fun ⟨he, hr, hk⟩ ↦ ⟨he, hr, hk⟩, fun h ↦ ⟨h.expression, h.required, h.not_known⟩⟩

instance (tree : VariableTree) (b : Block) : Decidable (Unknown tree b) :=
  decidable_of_iff _ unknown_iff

/-- The finding for an expression that starts from an unknown name: the name is marked at the
start of the content. -/
def report (b : Block) : Finding :=
  ⟨⟨b.contentOffset, b.contentOffset + (root (base b.content)).length⟩,
    .undefinedVariable (root (base b.content)), .error⟩

/-- A trimmed text starts with the root of its base. -/
theorem root_base_prefix_trim (raw : Text) : root (base raw.trim) <+: raw.trim := by
  have hupTo : raw.trim.upTo '|' <+: raw.trim := List.takeWhile_prefix _
  have hbase : base raw.trim <+: raw.trim.upTo '|' := by
    rw [base, Text.trim, Text.trimLeft_of_prefix_trim hupTo]
    exact Text.trimRight_prefix _
  exact (List.takeWhile_prefix _).trans (hbase.trans hupTo)

theorem check_of_prefix {tree : VariableTree} {b : Block}
    (h : root (base b.content) <+: b.content) :
    check tree b = if Unknown tree b then [report b] else [] := by
  unfold check
  split
  · next name hkind hname =>
    obtain ⟨hrequired, rfl⟩ := required?_eq_some_iff.1 hname
    rw [Text.find?_of_prefix h]
    by_cases hknown : root (base b.content) ∈ tree.names
    · rw [if_pos (VariableTree.contains_iff.2 hknown), if_neg fun hu ↦ hu.not_known hknown]
    · rw [if_neg fun hc ↦ hknown (VariableTree.contains_iff.1 hc),
        if_pos ⟨hkind, hrequired, hknown⟩]
      rfl
  · next hnot =>
    rw [if_neg fun hu ↦ ?_]
    exact hnot _ hu.expression (required?_eq_some_iff.2 ⟨hu.required, rfl⟩)

theorem flatMap_check {tree : VariableTree} {bs : List Block}
    (h : ∀ b ∈ bs, root (base b.content) <+: b.content) :
    bs.flatMap (check tree) = (bs.filter fun b ↦ Unknown tree b).map report := by
  induction bs with
  | nil => rfl
  | cons b bs ih =>
    obtain ⟨hb, hbs⟩ := List.forall_mem_cons.1 h
    rw [List.flatMap_cons, check_of_prefix hb, ih hbs]
    by_cases hu : Unknown tree b <;> simp [hu]

variable {tree : VariableTree} {t : Text} {b : Block}

theorem root_base_prefix_content (hb : b ∈ t.blocks) : root (base b.content) <+: b.content := by
  obtain ⟨raw, heq, -⟩ := Text.placed_of_mem_blocks hb
  have hcontent : b.content = raw.trim := congrArg Block.content heq
  rw [hcontent]
  exact root_base_prefix_trim raw

/-- **One finding for each expression that starts from an unknown name**, in order. -/
theorem undefinedVariables_eq_map (h : tree.size ≠ 0) (t : Text) :
    undefinedVariables tree t.blocks = (t.blocks.filter fun b ↦ Unknown tree b).map report := by
  rw [undefinedVariables, if_neg h]
  exact flatMap_check fun b hb ↦ root_base_prefix_content hb

theorem covers_report (hb : b ∈ t.blocks) :
    (report b).span.Covers t (root (base b.content)) := by
  obtain ⟨rest, hrest⟩ := root_base_prefix_content hb
  have hcontent := (Text.placed_of_mem_blocks hb).hasAt_content
  rw [← hrest] at hcontent
  exact Span.covers_of_hasAt hcontent.left

/-- The findings of two blocks stand one after the other, as the blocks do. -/
theorem pairwise_reports (t : Text) :
    (t.blocks.map report).Pairwise fun d e ↦ d.span.stop ≤ e.span.start := by
  refine List.pairwise_map.2 (t.pairwise_blocks.imp_of_mem fun {a b} ha hb hle ↦ ?_)
  have hplaced := (Text.placed_of_mem_blocks ha).wellPlaced
  have hroom := hplaced.content_before_closer
  have hafter := (Text.placed_of_mem_blocks hb).wellPlaced.le_contentOffset
  have hlength := (root_base_prefix_content ha).length_le
  show a.contentOffset + (root (base a.content)).length ≤ b.contentOffset
  omega

/-- **What is reported about names.**  In a text, and for a tree that is not empty, there is one
finding for each expression that starts from an unknown name.  The findings are in the order of the
text, and each marks the name where the content of its block starts; there the search for the name
finds it. -/
theorem undefinedVariables_exact (h : tree.size ≠ 0) (t : Text) :
    undefinedVariables tree t.blocks = (t.blocks.filter fun b ↦ Unknown tree b).map report ∧
    ((undefinedVariables tree t.blocks).Pairwise fun d e ↦ d.span.stop ≤ e.span.start) ∧
    ∀ b ∈ t.blocks, Unknown tree b →
      Text.find? (root (base b.content)) b.content = some 0 ∧
      (report b).span.of t = root (base b.content) := by
  have heq := undefinedVariables_eq_map h t
  refine ⟨heq, ?_, fun b hb _ ↦ ⟨?_, (covers_report hb).of_eq⟩⟩
  · rw [heq]
    exact (pairwise_reports t).sublist (List.filter_sublist.map report)
  · exact Text.find?_of_prefix (root_base_prefix_content hb)

/-- The name stands three times in the expression, and is marked where it stands first. -/
theorem undefinedVariables_exact_repeated :
    let tree : VariableTree := ⟨[(['a'], .leaf "")]⟩
    let t := BlockKind.expression.write "  us.us |us ".toList ++ BlockKind.expression.write ['a']
    tree.size ≠ 0 ∧ undefinedVariables tree t.blocks
      = [⟨⟨4, 6⟩, .undefinedVariable ['u', 's'], .error⟩] := by
  intro tree t
  have hsize : tree.size ≠ 0 := by decide
  exact ⟨hsize, (undefinedVariables_exact hsize t).1.trans (by decide +kernel)⟩

/-! ## What can be reported -/

/-- The texts that can be reported as unknown names. -/
structure Reportable (name : Text) : Prop where
  ne_nil : name ≠ []
  plain : ∀ c ∈ name, c ∉ ['[', '"', '\'', '(', '|', '.'] ∧ isBlank c = false
  not_builtin : name ∉ ["loop".toList, "super".toList]
  no_closer : ∀ kind : BlockKind, ¬ kind.closer <:+: name

theorem ofChar?_of_not_mem {c : Char} (h : c ∉ ['[', '"', '\'', '(']) :
    Quote.ofChar? c = none := by
  refine Option.eq_none_iff_forall_ne_some.2 fun quote hquote ↦ h ?_
  rw [Quote.ofChar?_eq_some_iff.1 hquote]
  cases quote <;> decide

/-- The root of an expression that has to be known can be reported. -/
theorem Required.reportable (h : Required b.content) (hb : b ∈ t.blocks) :
    Reportable (root (base b.content)) := by
  have hplain : ∀ c ∈ root (base b.content), c ∉ ['[', '"', '\'', '('] ∧ isBlank c = false :=
    fun c hc ↦ h.plain c (List.takeWhile_subset _ hc)
  have hbar : ∀ c ∈ root (base b.content), c ≠ '|' := by
    intro c hc
    have hbase : c ∈ base b.content := List.takeWhile_subset _ hc
    exact Text.ne_of_mem_upTo ((Text.mem_trim_iff (hplain c hc).2).1 hbase)
  refine ⟨h.root_ne_nil, fun c hc ↦ ⟨?_, (hplain c hc).2⟩, h.not_builtin, fun kind ↦ ?_⟩
  · have hdot : c ≠ '.' := Text.ne_of_mem_upTo hc
    simpa [hbar c hc, hdot] using (hplain c hc).1
  · exact Block.closer_not_infix hb (root_base_prefix_content hb)
      (fun c hc ↦ ofChar?_of_not_mem (hplain c hc).1) kind

/-! The other way round, a name is reported in an expression that asks it for a member.  This is no
literal, whatever the name is. -/

section

variable {name : Text}

theorem exists_spells {word t : Text}
    (h : List.Forall₂ (fun letter c ↦ spells letter c = true) word t) {c : Char} (hc : c ∈ t) :
    ∃ letter ∈ word, spells letter c = true := by
  induction h with
  | nil => cases hc
  | @cons letter d word t hspells _ ih =>
    rcases List.mem_cons.1 hc with rfl | hc
    · exact ⟨letter, List.mem_cons_self, hspells⟩
    · obtain ⟨letter', hmem, hspells'⟩ := ih hc
      exact ⟨letter', List.mem_cons_of_mem letter hmem, hspells'⟩

theorem not_literal_member (hdot : '.' ∉ name) : ¬ Literal (name ++ ['.', 'x']) := by
  generalize ht : name ++ ['.', 'x'] = t
  intro h
  cases h with
  | whole h => exact h.dot_not_mem (by simp [← ht])
  | @decimal whole fraction hwhole hfraction =>
    have hpieces := congrArg (List.splitOn '.') ht
    rw [List.splitOn_append_cons_self, List.splitOn_append_cons_self,
      List.splitOn_eq_singleton hdot, List.splitOn_eq_singleton hwhole.dot_not_mem,
      List.splitOn_eq_singleton hfraction.dot_not_mem] at hpieces
    have hlast : [['x']] = [fraction] := (List.append_inj hpieces rfl).2
    obtain rfl := (List.cons.inj hlast).1
    exact absurd (hfraction.2 'x' List.mem_cons_self) (by decide)
  | @constant word _ hword h =>
    obtain ⟨letter, hmem, hspells⟩ := exists_spells h (c := '.') (by simp [← ht])
    rw [spells, Bool.or_eq_true, Bool.and_eq_true, beq_iff_eq, beq_iff_eq, beq_iff_eq] at hspells
    obtain rfl : '.' = letter := hspells.resolve_right fun hlong ↦ absurd hlong.2 (by decide)
    have hnone : ∀ word ∈ ["true".toList, "false".toList, "none".toList], '.' ∉ word := by decide
    exact hnone word hword hmem

theorem Reportable.dot_not_mem (h : Reportable name) : '.' ∉ name :=
  fun hmem ↦ (h.plain _ hmem).1 (by decide)

theorem Reportable.plain_member (h : Reportable name) :
    ∀ c ∈ name ++ ['.', 'x'], c ∉ ['[', '"', '\'', '(', '|'] ∧ isBlank c = false := by
  intro c hc
  rcases List.mem_append.1 hc with hc | hc
  · obtain ⟨hplain, hblank⟩ := h.plain c hc
    exact ⟨fun hmem ↦ hplain (List.mem_append_left ['.'] hmem), hblank⟩
  · simp only [List.mem_cons, List.not_mem_nil, or_false] at hc
    rcases hc with rfl | rfl <;> decide

theorem Reportable.root_base_member (h : Reportable name) :
    base (name ++ ['.', 'x']) = name ++ ['.', 'x'] ∧ root (name ++ ['.', 'x']) = name := by
  have hbar : '|' ∉ name ++ ['.', 'x'] := fun hmem ↦ (h.plain_member _ hmem).1 (by decide)
  constructor
  · rw [base, Text.upTo_of_not_mem hbar,
      Text.trim_of_not_blank fun c hc ↦ (h.plain_member c hc).2]
  · exact Text.upTo_intercalate [['x']] h.dot_not_mem

theorem Reportable.required_member (h : Reportable name) : Required (name ++ ['.', 'x']) := by
  obtain ⟨hbase, hroot⟩ := h.root_base_member
  refine ⟨?_, ?_, ?_, ?_, ?_⟩
  · simp [hbase]
  · rw [hbase]
    intro c hc
    obtain ⟨hplain, hblank⟩ := h.plain_member c hc
    exact ⟨fun hmem ↦ hplain (List.mem_append_left ['|'] hmem), hblank⟩
  · rw [hbase]
    exact not_literal_member h.dot_not_mem
  · rw [hbase, hroot]
    exact h.ne_nil
  · rw [hbase, hroot]
    exact h.not_builtin

/-- The expression block that asks the name for a member. -/
def memberBlock (name : Text) : Block :=
  .ofRaw .expression 0 ([' '] ++ (name ++ ['.', 'x'] ++ [' ']))

theorem Reportable.blocks_member (h : Reportable name) :
    Text.blocks (BlockKind.expression.spaced (name ++ ['.', 'x'])) = [memberBlock name] := by
  have hquotes : ∀ c ∈ name, Quote.ofChar? c = none := by
    intro c hc
    exact ofChar?_of_not_mem fun hmem ↦ (h.plain c hc).1 (List.mem_append_left ['|', '.'] hmem)
  have hmember : Region.Passes .expression ['.', 'x', ' '] (BlockKind.expression.closer ++ []) := by
    refine Region.passes_content (by decide) (Content.of_plain ?_) ?_
    · simp [Region.Inert, Quote.ofChar?]
    · simp [Region.EndsOpen]
  have hname : Region.Passes .expression name
      (['.', 'x', ' '] ++ (BlockKind.expression.closer ++ [])) :=
    Region.passes_of_closer_not_infix hquotes h.no_closer (by simp)
  have hblank : Region.Passes .expression [' ']
      (name ++ ['.', 'x', ' '] ++ (BlockKind.expression.closer ++ [])) :=
    Region.passes_char (by decide) (by simp) (Region.literalAt?_of_ofChar?_eq_none _ rfl)
  have hread := Region.items_write_of_passes 0 (hblank.append (hname.append hmember))
  refine (Text.blocks_brokenBlocks_of_items_eq ?_).1
  rw [Text.items_eq_region, BlockKind.spaced]
  simpa [memberBlock] using hread

theorem Reportable.unknown_member (h : Reportable name) (hnames : name ∉ tree.names) :
    Unknown tree (memberBlock name) ∧ root (base (memberBlock name).content) = name := by
  obtain ⟨hbase, hroot⟩ := h.root_base_member
  have hblank : ∀ c ∈ [' '], isBlank c = true := List.all_eq_true.1 rfl
  have hcontent : (memberBlock name).content = name ++ ['.', 'x'] :=
    (Text.trim_append_blanks _ hblank hblank).trans
      (Text.trim_of_not_blank fun c hc ↦ (h.plain_member c hc).2)
  have hname : root (base (memberBlock name).content) = name := by rw [hcontent, hbase, hroot]
  refine ⟨⟨rfl, ?_, ?_⟩, hname⟩
  · rw [hcontent]
    exact h.required_member
  · rw [hname]
    exact hnames

end

/-- **What can be reported as an unknown name**, for a given tree.  A name cannot hold a blank, a
quote, a bar, a dot, an opening bracket or parenthesis, or a closer; all other characters are fine,
and so not only words are reported. -/
theorem exists_undefinedVariable_iff (tree : VariableTree) (name : Text) :
    (∃ t : Text, ∃ d ∈ undefinedVariables tree t.blocks, d.problem = .undefinedVariable name) ↔
      tree.size ≠ 0 ∧ Reportable name ∧ name ∉ tree.names := by
  constructor
  · rintro ⟨t, d, hd, hproblem⟩
    by_cases hsize : tree.size = 0
    · rw [undefinedVariables, if_pos hsize] at hd
      cases hd
    · rw [undefinedVariables_eq_map hsize] at hd
      obtain ⟨b, hb, rfl⟩ := List.mem_map.1 hd
      obtain ⟨hb, hunknown⟩ := List.mem_filter.1 hb
      have hunknown : Unknown tree b := of_decide_eq_true hunknown
      cases hproblem
      exact ⟨hsize, hunknown.required.reportable hb, hunknown.not_known⟩
  · rintro ⟨hsize, hname, hnames⟩
    obtain ⟨hunknown, hroot⟩ := hname.unknown_member hnames
    refine ⟨BlockKind.expression.spaced (name ++ ['.', 'x']), report (memberBlock name), ?_,
      congrArg Problem.undefinedVariable hroot⟩
    rw [undefinedVariables_eq_map hsize, hname.blocks_member]
    exact List.mem_map_of_mem (List.mem_filter.2 ⟨List.mem_cons_self, decide_eq_true hunknown⟩)

/-- In `{{ a+b }}{{ -5 }}{{-a-}}`, a sum of known names, a number with a sign and a known name with
a sign on either side are reported, and none of them is a word. -/
theorem undefinedVariable_not_isWord :
    let tree : VariableTree := ⟨[(['a'], .leaf ""), (['b'], .leaf "")]⟩
    let t := BlockKind.expression.write " a+b ".toList
      ++ BlockKind.expression.write " -5 ".toList ++ BlockKind.expression.write "-a-".toList
    undefinedVariables tree t.blocks
      = [⟨⟨3, 6⟩, .undefinedVariable "a+b".toList, .error⟩,
        ⟨⟨12, 14⟩, .undefinedVariable "-5".toList, .error⟩,
        ⟨⟨19, 22⟩, .undefinedVariable "-a-".toList, .error⟩] ∧
      ¬ IsWord "a+b".toList ∧ ¬ IsWord "-5".toList ∧ ¬ IsWord "-a-".toList := by
  decide +kernel

end Reference
end TemplateAssist
