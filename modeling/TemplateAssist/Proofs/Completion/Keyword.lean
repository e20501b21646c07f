import TemplateAssist.Proofs.Completion.Property
import TemplateAssist.Proofs.Lint.Snippets

/-!
# Accepting a keyword that opens a body

In a statement that was just opened, a completion offers the keywords that start with the word being
typed.  One that opens a body brings the closer of the statement, a place for the body and the end
tag with it.  This file proves that the document is then complete, whatever prose stands around it.

* `Text.contextWithin_statement` — what is seen at the cursor is the open statement with the word,
  and no closer;
* `complete_statement` — so the whole pool for statements is offered, in place of the word;
* `Pool.eq_candidate_of_mem_pool` — a candidate of the kind and with the label of a keyword is that
  keyword;
* `Pool.clean_insertion` — what it inserts makes a clean text with the opener before it;
* `lint_accept_keyword` — all together.
-/

set_option autoImplicit false

namespace TemplateAssist

/-! ## The cursor in a statement that was just opened -/

section Cursor

/-- Some prose and a statement opener with a blank, before the first word of the statement. -/
def Text.thenStatement (p : Text) : Text := p ++ (BlockKind.statement.opener ++ [' '])

variable {settings : Settings} {p w s : Text}

theorem Text.lineBefore_statement (p s : Text) (hw : ∀ c ∈ w, isWordChar c = true) :
    ((p.thenStatement ++ w ++ s).lineBefore (p.thenStatement ++ w).length).2
      = thenStatement (trailing (· ≠ '\n') p) ++ w := by
  rw [lineBefore_append _ s hw, thenStatement, trailing_append p (List.all_eq_true.1 rfl)]
  rfl

theorem openBlock?_statement (hp : p.BraceFree) (hw : ∀ c ∈ w, isWordChar c = true) :
    openBlock? (p.thenStatement ++ w) = some (.statement, w) := by
  have hopen : openBlock? (p.thenStatement ++ w) = some (.statement, Text.trimLeft (' ' :: w)) := by
    have hline : p.thenStatement ++ w = p ++ (BlockKind.statement.opener ++ ' ' :: w) := by
      simp [Text.thenStatement]
    refine openBlock?_eq hline ?_ fun k other hk hat ↦ ?_
    · refine List.forall_mem_cons.2 ⟨by decide, fun c hc ↦ ?_⟩
      exact isBlocking_of_isWordChar (hw c hc)
    · obtain ⟨d, hopener, -⟩ := other.exists_opener_eq
      rw [hopener, hline] at hat
      have hbrace := hat.getElem?_eq
      rw [List.getElem?_append_left hk] at hbrace
      exact absurd rfl (hp _ (List.mem_of_getElem? hbrace)).1
  rw [hopen]
  cases w with
  | nil => rfl
  | cons c w =>
    have hc : isBlank c = false := isBlank_of_isWordChar (hw c List.mem_cons_self)
    rw [Text.trimLeft, List.dropWhile_cons_of_pos (by decide), ← Text.trimLeft,
      Text.trimLeft_cons w hc]

theorem loneBrace?_statement (p : Text) (hw : ∀ c ∈ w, isWordChar c = true) :
    loneBrace? (p.thenStatement ++ w) = none := by
  rw [Text.thenStatement, ← List.append_assoc, loneBrace?_append_word _ (by decide) hw,
    Text.trailing_concat _ (by decide)]
  rfl

theorem closerAhead_of_braceFree (u : Text) (hs : s.BraceFree) (kind : BlockKind) :
    closerAhead settings (u ++ s) u.length kind = false := by
  rw [Text.closerAhead_append, Bool.eq_false_iff]
  intro hincludes
  obtain ⟨n, hn⟩ := Option.isSome_iff_exists.1 hincludes
  obtain ⟨before, after, heq, -⟩ := Text.hasAt_of_find? hn
  have hbrace : '}' ∈ kind.closer := by cases kind <;> decide
  have hmem : '}' ∈ s.take settings.closingLookahead := by simp [heq, hbrace]
  exact (hs _ (List.mem_of_mem_take hmem)).2 rfl

/-- What is seen at the cursor is the statement with the word that is being typed. -/
theorem Text.contextWithin_statement (hp : p.BraceFree) (hs : s.BraceFree)
    (hw : ∀ c ∈ w, isWordChar c = true) :
    contextWithin settings (p.thenStatement ++ w ++ s) (p.thenStatement ++ w).length
      = .block .statement w false := by
  have hline : BraceFree (trailing (· ≠ '\n') p) := fun c hc ↦
    hp c ((List.rtakeWhile_suffix _ p).subset hc)
  have htrim : w.trim = w := trim_of_not_blank fun c hc ↦ isBlank_of_isWordChar (hw c hc)
  simp only [contextWithin, lineBefore_statement p s hw, loneBrace?_statement _ hw,
    openBlock?_statement hline hw, closerAhead_of_braceFree _ hs, blockContext, htrim]

theorem dotBefore_statement (p s : Text) (hw : ∀ c ∈ w, isWordChar c = true) :
    dotBefore (p.thenStatement ++ w ++ s) (p.thenStatement ++ w).length = false := by
  rw [Bool.eq_false_iff, Ne, dotBefore_iff (by simp), List.take_left, List.getLast?_append]
  cases hlast : w.getLast? with
  | none => simp [Text.thenStatement]
  | some c =>
    have hc : c ≠ '.' := ne_of_isWordChar (hw c (List.mem_of_getLast? hlast)) (by decide)
    simpa using hc

/-- The completion offers the pool for statements, in place of the word. -/
theorem complete_statement (tree : VariableTree) (hp : p.BraceFree) (hs : s.BraceFree)
    (hw : ∀ c ∈ w, isWordChar c = true) :
    complete settings tree (p.thenStatement ++ w ++ s) (p.thenStatement ++ w).length
      = Completion.offer settings false w (Completion.pool tree (.block .statement w false))
        ⟨p.thenStatement.length, (p.thenStatement ++ w).length⟩ := by
  have hle : (p.thenStatement ++ w).length ≤ (p.thenStatement ++ w ++ s).length := by simp
  have hclamp : Text.clamp (p.thenStatement ++ w ++ s) (p.thenStatement ++ w).length
      = (p.thenStatement ++ w).length := Nat.min_eq_left hle
  have hword : Text.trailingWord
      (Text.thenStatement (Text.trailing (· ≠ '\n') p) ++ w) = w := by
    rw [Text.thenStatement, ← List.append_assoc]
    exact Text.trailingWord_append _ (by decide) hw
  have hspan : (p.thenStatement ++ w).length - w.length = p.thenStatement.length := by
    rw [List.length_append, Nat.add_sub_cancel]
  rw [Completion.complete_eq_inContext, hclamp, Text.contextWithin_statement hp hs hw]
  simp only [Completion.inContext, dotBefore_statement p s hw, Completion.replaced,
    Text.lineBefore_statement p s hw, hword, hspan]
  rfl

end Cursor

/-! ## Keywords -/

mutual

theorem Node.kind_of_mem_flatten {path : Text} {c : Candidate} :
    ∀ {node : Node}, c ∈ node.flatten path → c.kind = .variable
  | .leaf _, h => by cases h
  | .array, h => by cases h
  | .object _, h => Node.kind_of_mem_flattenChildren h

theorem Node.kind_of_mem_flattenChildren {path : Text} {c : Candidate} :
    ∀ {children : List (Text × Node)}, c ∈ Node.flattenChildren path children → c.kind = .variable
  | [], h => by cases h
  | (name, node) :: rest, h => by
    rw [Node.flattenChildren, List.cons_append, List.mem_cons, List.mem_append] at h
    rcases h with rfl | h | h
    · rfl
    · exact Node.kind_of_mem_flatten h
    · exact Node.kind_of_mem_flattenChildren h

end

namespace Pool

/-- What is offered for a keyword. -/
def Keyword.candidate (k : Keyword) (closed : Bool) : Candidate :=
  .ofTexts .keyword k.label (k.insertion closed) k.detail

/-- **No two keywords have one label**, and nothing else of their kind has it: what is offered with
the label of a keyword in a statement is that keyword. -/
theorem eq_candidate_of_mem_pool {tree : VariableTree} {w : Text} {closed : Bool} {c : Candidate}
    {k : Keyword} (hk : k ∈ keywords)
    (hc : c ∈ Completion.pool tree (.block .statement w closed)) (hkind : c.kind = .keyword)
    (hlabel : c.label = k.label.toList) : c = k.candidate closed := by
  -- the words of the language are a table; a variable can have any name, but is of another kind
  have hwords : ∀ k ∈ keywords, ∀ c ∈ statements closed ++ operators ++ builtins ++ tests,
      c.kind = .keyword → c.label = k.label.toList → c = k.candidate closed := by
    cases closed <;> decide +kernel
  simp only [Completion.pool, List.mem_append] at hc
  rcases hc with (hc | hc) | hc
  · exact hwords k hk c (by simp only [List.mem_append]; exact .inl hc) hkind hlabel
  · rw [Node.kind_of_mem_flattenChildren hc] at hkind
    cases hkind
  · exact hwords k hk c (by simp only [List.mem_append]; exact .inr hc) hkind hlabel

/-- The keywords that open a body start with the name of a tag other than `set`, and have its end
tag.  What follows the name has no characters that mean something, except for an empty pair of
parentheses at its end. -/
theorem exists_tag_of_mem_keywords : ∀ k ∈ keywords, k.endTag.isSome = true → ∃ tag ∈ Tag.all,
    let rest := k.snippet.drop tag.name.length
    tag ≠ .setTag ∧ k.endTag = some tag.endName.toList ∧ k.snippet = tag.name.toList ++ rest ∧
      (rest ++ [' ']).head? = some ' ' ∧ Text.Harmless (rest.takeWhile (· ≠ '(')) ∧
      rest.dropWhile (· ≠ '(') ∈ [[], ['(', ')']] := by
  decide +kernel

theorem isContent_parentheses : WellFormed.IsContent ['(', ')'] := by
  have hplain : ∀ c ∈ ['(', ')'], WellFormed.Plain c := by
    simp only [List.forall_mem_cons, WellFormed.Plain]
    refine ⟨⟨by decide, by decide, fun q ↦ ?_⟩, ⟨by decide, by decide, fun q ↦ ?_⟩, by simp⟩ <;>
      cases q <;> decide
  exact ⟨.of_plain hplain, .pair .nil .nil, .nil⟩

theorem Keyword.thenStatement_insertion {k : Keyword} {endTag : Text} (p : Text)
    (h : k.endTag = some endTag) : p.thenStatement ++ k.insertion false
      = p ++ statementWithBody k.snippet ('$' :: Nat.toDigits 10 k.bodyNumber) endTag := by
  simp [insertion, h, Text.thenStatement, statementWithBody, inStatement, BlockKind.opener]

/-- After some prose and a statement opener, what is inserted for a keyword that opens a body makes
a clean text. -/
theorem clean_insertion (settings : Settings) {p : Text} {k : Keyword} (hp : p.BraceFree)
    (hk : k ∈ keywords) (hend : k.endTag.isSome = true) :
    Clean settings (p.thenStatement ++ k.insertion false) := by
  obtain ⟨tag, -, htag, hendTag, hsnippet, hhead, hharmless, hcall⟩ :=
    exists_tag_of_mem_keywords k hk hend
  rw [k.thenStatement_insertion p hendTag, hsnippet]
  generalize k.snippet.drop tag.name.length = rest at hhead hharmless hcall ⊢
  have hrest : WellFormed.IsContent rest := by
    rw [← rest.takeWhile_append_dropWhile (p := (· ≠ '('))]
    refine hharmless.isContent_append ?_
    rcases List.mem_pair.1 hcall with hnil | hpair
    · rw [hnil]
      exact WellFormed.isContent_nil
    · rw [hpair]
      exact isContent_parentheses
  have hbody : Text.Harmless ('$' :: Nat.toDigits 10 k.bodyNumber) :=
    .append (t := ['$']) (by decide) (harmless_toDigits _)
  have hclean := clean_prose settings hbody.isContent.braceFree
  exact (clean_prose settings hp).append (clean_statementWithBody tag htag hrest hhead hclean)

end Pool

/-! ## Accepting -/

/-- A candidate that matches is offered if it comes early enough in the pool. -/
theorem Completion.exists_offer_eq {settings : Settings} {typed : Text} {c : Candidate}
    {first : List Candidate} (dotTyped : Bool) (rest : List Candidate) (span : Span Nat)
    (hc : c ∈ first) (hmatch : c.isMatch typed = true)
    (hmax : first.length ≤ settings.maxCandidates) :
    ∃ completion, offer settings dotTyped typed (first ++ rest) span = some completion ∧
      c ∈ completion.candidates := by
  have hfirst : c ∈ first.filter (·.isMatch typed) := List.mem_filter.2 ⟨hc, hmatch⟩
  have hprefix : first.filter (·.isMatch typed)
      <+: ((first ++ rest).filter (·.isMatch typed)).take settings.maxCandidates := by
    refine List.prefix_take_iff.2 ⟨?_, (List.length_filter_le _ _).trans hmax⟩
    exact ⟨rest.filter (·.isMatch typed), (List.filter_append ..).symm⟩
  have hmem := hprefix.subset hfirst
  refine ⟨_, if_neg ?_, hmem⟩
  have hne := List.ne_nil_of_mem (List.mem_of_mem_take hmem)
  simp only [Bool.and_eq_true, List.isEmpty_iff, hne, false_and, not_false_eq_true]

theorem Text.replace_append (head w s word : Text) :
    (head ++ w ++ s).replace ⟨head.length, (head ++ w).length⟩ word = head ++ word ++ s := by
  rw [replace, List.drop_left, List.append_assoc head w s, List.take_left]

/-- **Accepting a keyword that opens a body gives a document without findings**, if there are no
braces before the statement and after the cursor.  All keywords that start with the word are
offered if that many candidates are allowed. -/
theorem lint_accept_keyword (settings lintSettings : Settings) (tree : VariableTree)
    {p w s : Text} (hp : p.BraceFree) (hs : s.BraceFree) (hw : ∀ c ∈ w, isWordChar c = true) :
    let before := p ++ ['{', '%', ' '] ++ w
    let t := before ++ s
    (∀ k ∈ Pool.keywords, w.lower <+: Text.lower k.label.toList →
      Pool.keywords.length ≤ settings.maxCandidates →
      ∃ completion, complete settings tree t before.length = some completion ∧
        k.candidate false ∈ completion.candidates) ∧
    ∀ completion, complete settings tree t before.length = some completion →
      ∀ c ∈ completion.candidates, ∀ k ∈ Pool.keywords, k.endTag.isSome = true →
        c.kind = .keyword → c.label = k.label.toList →
        lint lintSettings VariableTree.empty (t.replace completion.span c.insertion) = [] := by
  intro before t
  have hcomplete : complete settings tree t before.length = _ := complete_statement tree hp hs hw
  constructor
  · intro k hk hmatch hmax
    obtain ⟨rest, hpool⟩ : Pool.keywords.map (·.candidate false)
        <+: Completion.pool tree (.block .statement w false) := by
      simp only [Completion.pool, Pool.statements, List.append_assoc]
      exact List.prefix_append _ _
    rw [hcomplete, ← hpool]
    refine Completion.exists_offer_eq _ _ _ (List.mem_map_of_mem hk) ?_ ?_
    · exact List.isPrefixOf_iff_prefix.2 hmatch
    · rwa [List.length_map]
  · intro completion hsome c hc k hk hend hkind hlabel
    obtain ⟨-, hoffer⟩ := Option.ite_none_left_eq_some.1 (hcomplete.symm.trans hsome)
    obtain rfl := Option.some.inj hoffer
    have hpool := List.mem_of_mem_filter (List.mem_of_mem_take hc)
    obtain rfl := Pool.eq_candidate_of_mem_pool hk hpool hkind hlabel
    have hclean := (Pool.clean_insertion lintSettings hp hk hend).append
      (clean_prose lintSettings hs)
    have hreplace := Text.replace_append p.thenStatement w s (k.insertion false)
    exact hreplace ▸ hclean.lint_eq_nil

/-- An `F` is typed between `5%# "` and `oo' %`, and the loop is accepted. -/
theorem lint_accept_keyword_for :
    let p := "5%# \"".toList
    let s := "oo' %".toList
    let t : Text := p ++ ['{', '%', ' '] ++ ['F'] ++ s
    ∃ completion, complete {} VariableTree.builtin t 9 = some completion ∧
      ∃ c ∈ completion.candidates, c.label = "for".toList ∧
        t.replace completion.span c.insertion
          = p ++ statementWithBody "for $0 in $1".toList "$2".toList "endfor".toList ++ s ∧
        lint {} VariableTree.empty (t.replace completion.span c.insertion) = [] := by
  intro p s t
  have hp : Text.BraceFree p := by simp [p, Text.BraceFree]
  have hs : Text.BraceFree s := by simp [s, Text.BraceFree]
  have hw : ∀ c ∈ ['F'], isWordChar c = true := List.all_eq_true.1 (by decide)
  have hfor := List.getElem_mem (l := Pool.keywords) (n := 1) (by decide)
  obtain ⟨hoffered, haccept⟩ := lint_accept_keyword {} {} VariableTree.builtin hp hs hw
  obtain ⟨completion, hsome, hmem⟩ :=
    hoffered _ hfor (List.isPrefixOf_iff_prefix.1 (by decide +kernel)) (by decide)
  have hspan : (complete {} VariableTree.builtin t 9).map (·.span) = some ⟨8, 9⟩ := by
    decide +kernel
  have hcomplete : complete {} VariableTree.builtin t 9 = some completion := hsome
  rw [hcomplete] at hspan
  have hspan' : completion.span = ⟨8, 9⟩ := Option.some.inj hspan
  have hlint := haccept completion hsome _ hmem _ hfor rfl rfl rfl
  refine ⟨completion, hcomplete, _, hmem, rfl, ?_, hlint⟩
  rw [hspan']
  decide +kernel

end TemplateAssist
