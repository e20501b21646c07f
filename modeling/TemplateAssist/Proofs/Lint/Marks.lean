import TemplateAssist.Lint
import TemplateAssist.Proofs.Block.Placement
import TemplateAssist.Proofs.Lint.MixedDelimiters
import TemplateAssist.Proofs.Lint.TagMatching

/-!
# Findings mark what they speak of

Every finding for a document marks a part of it that is not empty, and this part is what the
finding is about: the word that is misspelt, the closer that does not fit, the block whose body
stays open, the bracket or the name.

`Problem.Describes` says, for each problem, what the marked text has to be, and `Marks` adds that
the mark lies in the document.  There is a lemma for each check.  They all work in the same way:
the text that the check goes along stands at a known place in the document (`Text.HasAt`), so what
the check finds in it is at a known place as well.
-/

set_option autoImplicit false

namespace TemplateAssist

/-! ## Marks -/

/-- The span is a whole statement of the document, and `word` is the first word in it. -/
def Text.StatementAt (t : Text) (span : Span Nat) (word : Text) : Prop :=
  ∃ b ∈ t.blocks, b.kind = .statement ∧ b.span = span ∧
    (∃ raw, span.of t = BlockKind.statement.write raw ∧ b.content = raw.trim) ∧
    ∃ offset, firstWord? b.content = some (offset, word)

/-- What a problem says of the part of the document that is marked for it. -/
def Problem.Describes (t : Text) (span : Span Nat) : Problem → Prop
  | mixedDelimiters => ∃ p : MixedPattern, p.Matches (span.of t)
  | mismatchedCloser expected found => span.of t = found.closer ∧ found.closer ≠ expected.closer
  | unclosedBlock => span.stop = t.length ∧ ∃ kind : BlockKind, kind.opener <+: span.of t
  | misspelt meant => meantWord? (span.of t) = some meant
  | unexpectedEnd tag => t.StatementAt span tag.endName.toList
  | wrongEnd _ found => t.StatementAt span found.endName.toList
  | invalidEnd word => span.of t = word
  | unclosedTag tag => t.StatementAt span tag.name.toList
  | unmatchedQuote quote => span.of t = [quote.char]
  | unexpectedClosing bracket => span.of t = [bracket.closing]
  | unmatchedOpening bracket => span.of t = [bracket.opening]
  | undefinedVariable name => span.of t = name
  | other _ => False

/-- The finding marks a part of the document, and what it says is true of this part. -/
structure Marks (t : Text) (d : Finding) : Prop where
  start_lt_stop : d.span.start < d.span.stop
  stop_le : d.span.stop ≤ t.length
  describes : d.problem.Describes t d.span

theorem Span.Covers.marks {t w : Text} {d : Finding} (h : d.span.Covers t w) (hw : w ≠ [])
    (hd : d.problem.Describes t d.span) : Marks t d :=
  ⟨h.start_lt_stop hw, h.stop_le, hd⟩

/-! ## Mixed delimiters -/

theorem MixedPattern.ne_nil_of_matches {p : MixedPattern} {w : Text} (h : p.Matches w) :
    w ≠ [] := by
  rintro rfl
  cases p with
  | expressionThenPercent => obtain ⟨_, _, heq⟩ := h; cases heq
  | percentThenExpression => obtain ⟨_, _, heq⟩ := h; cases heq
  | commentPercent => rcases h with heq | heq <;> cases heq
  | statementHash => rcases h with heq | heq <;> cases heq

theorem MixedPattern.covers_of_mem_matchesFrom {p : MixedPattern} {t rest : Text}
    {offset skip : Nat} (h : t.HasAt offset rest) :
    ∀ span ∈ p.matchesFrom offset skip rest, ∃ w, p.Matches w ∧ span.Covers t w := by
  induction rest generalizing offset skip with
  | nil => exact nofun
  | cons c rest ih =>
    intro span hspan
    cases skip with
    | succ n => exact ih h.tail span hspan
    | zero =>
      rw [matchesFrom] at hspan
      split at hspan
      · next n hn =>
        rcases List.mem_cons.1 hspan with rfl | hspan
        · obtain ⟨w, after, hw, heq, rfl⟩ := match?_eq_some_iff.1 hn
          rw [heq] at h
          exact ⟨w, hw, Span.covers_of_hasAt h.left⟩
        · exact ih h.tail span hspan
      · exact ih h.tail span hspan

theorem marks_of_mem_mixedDelimiters {t : Text} {d : Finding} (h : d ∈ t.mixedDelimiters) :
    Marks t d := by
  obtain ⟨span, hspan, rfl⟩ := List.mem_map.1 h
  rw [Text.mixedSpans, List.mem_mergeSort] at hspan
  obtain ⟨p, -, hspan⟩ := List.mem_flatMap.1 hspan
  obtain ⟨w, hw, hcovers⟩ := MixedPattern.covers_of_mem_matchesFrom t.hasAt_self span hspan
  refine hcovers.marks (MixedPattern.ne_nil_of_matches hw) ⟨p, ?_⟩
  rw [hcovers.of_eq]
  exact hw

/-! ## Broken blocks -/

theorem BlockKind.closer_injective {a b : BlockKind} (h : a.closer = b.closer) : a = b := by
  revert h
  cases a <;> cases b <;> decide

theorem marks_of_mem_brokenBlocks {t : Text} {d : Finding} (h : d ∈ t.brokenBlocks) :
    Marks t d := by
  obtain ⟨item, hitem, hd⟩ := List.mem_filterMap.1 h
  have hplaced := Text.placed_of_mem_items hitem
  cases item with
  | block => cases hd
  | mismatch offset expected found =>
    obtain rfl := Option.some.inj hd
    obtain ⟨hne, hat⟩ := hplaced
    have hcovers : Span.Covers ⟨offset, offset + 2⟩ t found.closer :=
      ⟨hat, by rw [found.length_closer]⟩
    refine hcovers.marks (by cases found <;> exact List.cons_ne_nil _ _) ⟨hcovers.of_eq, ?_⟩
    exact fun heq ↦ hne (BlockKind.closer_injective heq)
  | unclosed start stop =>
    obtain rfl := Option.some.inj hd
    obtain ⟨kind, raw, hat, hstop, hend⟩ := hplaced
    have hcovers : Span.Covers ⟨start, stop⟩ t (kind.opener ++ raw) := ⟨hat, hstop.symm⟩
    refine hcovers.marks (by cases kind <;> exact List.cons_ne_nil _ _) ⟨hend, kind, ?_⟩
    rw [hcovers.of_eq]
    exact List.prefix_append _ _

/-! ## Tags -/

namespace TagBalance

section

variable {settings : Settings} {t : Text} {b : Block}

theorem statementAt_of_mem_blocks (h : b ∈ t.blocks) (hk : b.kind = .statement) {offset : Nat}
    {word : Text} (hw : firstWord? b.content = some (offset, word)) :
    t.StatementAt b.span word ∧ b.start < b.stop ∧ b.stop ≤ t.length := by
  obtain ⟨raw, heq, hat⟩ := Text.placed_of_mem_blocks h
  have hcovers : b.span.Covers t (b.kind.write raw) := by
    refine ⟨hat, ?_⟩
    rw [BlockKind.length_write, heq]
    show b.start + 2 + raw.length + 2 = b.start + (raw.length + 4)
    omega
  refine ⟨⟨b, h, hk, rfl, ⟨raw, ?_, ?_⟩, offset, hw⟩, ?_, hcovers.stop_le⟩
  · rw [hcovers.of_eq, hk]
  · rw [heq]
    rfl
  · refine hcovers.start_lt_stop ?_
    rw [hk]
    exact List.cons_ne_nil _ _

theorem marks_unclosed (h : b ∈ t.blocks) {tag : Tag} (hb : b.event settings = .opens tag) :
    Marks t (Pending.unclosed ⟨tag, b.span⟩) := by
  obtain ⟨hk, offset, hw⟩ := firstWord?_of_opens hb
  obtain ⟨hat, hlt, hle⟩ := statementAt_of_mem_blocks h hk hw
  exact ⟨hlt, hle, hat⟩

theorem marks_unmatchedEnd (h : b ∈ t.blocks) {tag : Tag} (hb : b.event settings = .closes tag)
    (top : Option Pending) : Marks t (unmatchedEnd b tag top) := by
  obtain ⟨hk, offset, hw⟩ := firstWord?_of_closes hb
  obtain ⟨hat, hlt, hle⟩ := statementAt_of_mem_blocks h hk hw
  cases top with
  | none => exact ⟨hlt, hle, hat⟩
  | some top => exact ⟨hlt, hle, hat⟩

theorem marks_of_mem_remarks (h : b ∈ t.blocks) {d : Finding} (hd : d ∈ b.remarks settings) :
    Marks t d := by
  unfold Block.remarks at hd
  split at hd
  · next offset word hk hw =>
    obtain ⟨hne, before, rest, hcontent, hlength⟩ := eq_of_firstWord? hw
    have hword : b.content.HasAt offset word := ⟨before, rest, hcontent, hlength⟩
    have hcovers := Span.covers_of_hasAt
      ((Text.placed_of_mem_blocks h).hasAt_content.trans hword)
    rcases List.mem_append.1 hd with hd | hd
    · obtain ⟨meant, hmeant, rfl⟩ := Option.map_eq_some_iff.1 (Option.mem_toList.1 hd)
      refine hcovers.marks hne ?_
      show meantWord? _ = some meant
      rw [hcovers.of_eq, hmeant]
    · split at hd
      · obtain rfl := List.mem_singleton.1 hd
        exact hcovers.marks hne hcovers.of_eq
      · cases hd
  · cases hd

theorem marks_of_mem_report (h : b ∈ t.blocks) {pairs : List (Nat × Nat)} {j : Nat} {d : Finding}
    (hd : d ∈ report settings t.blocks pairs b j) : Marks t d := by
  by_cases hc : ∃ tag, b.event settings = .closes tag
  · obtain ⟨tag, he⟩ := hc
    rw [report_of_closes he] at hd
    split at hd
    · cases hd
    · rw [List.mem_singleton.1 hd]
      exact marks_unmatchedEnd h he _
  · rw [report_of_not_closes fun tag he ↦ hc ⟨tag, he⟩] at hd
    exact marks_of_mem_remarks h hd

theorem marks_of_mem_tagBalance {d : Finding} (hd : d ∈ tagBalance settings t.blocks) :
    Marks t d := by
  have hstart : Reads settings [] .start := reads_start
  have hall : tagBalance settings t.blocks = _ := hstart.check_eq_reports t.blocks
  rw [hall, List.nil_append, List.mem_append] at hd
  rcases hd with hd | hd
  · obtain ⟨⟨b, j⟩, hb, hd⟩ := List.mem_flatMap.1 hd
    exact marks_of_mem_report (List.fst_mem_of_mem_zipIdx hb) hd
  · obtain ⟨⟨i, p⟩, hp, rfl⟩ := List.mem_map.1 hd
    obtain ⟨b, tag, hb, he, -, rfl⟩ := mem_unmatchedOpenings.1 hp
    exact marks_unclosed (List.mem_of_getElem? hb) he

end

end TagBalance

/-! ## Quotes and brackets -/

namespace Pairing

theorem hasAt_lastIndex {c : Char} {t : Text} (h : c ∈ t) : t.HasAt (lastIndex c t) [c] := by
  have hreverse : c ∈ t.reverse := List.mem_reverse.2 h
  have hlt : t.reverse.idxOf c < t.length := by
    rw [← List.length_reverse]
    exact List.idxOf_lt_length_of_mem hreverse
  refine Text.hasAt_of_getElem? ?_
  rw [lastIndex, ← List.getElem?_reverse hlt, List.getElem?_idxOf hreverse]

theorem marks_of_mem_quotes {t content : Text} {base : Nat} (h : t.HasAt base content)
    {quote : Quote} {d : Finding} (hd : d ∈ quotes base content quote) : Marks t d := by
  rw [quotes] at hd
  split at hd
  · next hodd =>
    have hmem : quote.char ∈ content := by
      refine List.count_pos_iff.1 ?_
      omega
    obtain rfl := List.mem_singleton.1 hd
    have hcovers := Span.covers_single (h.trans (hasAt_lastIndex hmem))
    exact hcovers.marks (List.cons_ne_nil _ _) hcovers.of_eq
  · cases hd

/-- As long as a bracket is open, `first` is the place of an opening one. -/
theorem marks_of_mem_brackets {t rest : Text} {bracket : Bracket} {offset depth first : Nat}
    (h : t.HasAt offset rest) (hfirst : 0 < depth → t.HasAt first [bracket.opening])
    {d : Finding} (hd : d ∈ brackets bracket offset depth first rest) : Marks t d := by
  induction rest generalizing offset depth first with
  | nil =>
    rw [brackets] at hd
    split at hd
    · next hdepth =>
      obtain rfl := List.mem_singleton.1 hd
      have hcovers := Span.covers_single (hfirst hdepth)
      exact hcovers.marks (List.cons_ne_nil _ _) hcovers.of_eq
    · cases hd
  | cons c rest ih =>
    have hc : t.HasAt offset [c] := Text.HasAt.left (u := [c]) (v := rest) h
    unfold brackets at hd
    split at hd
    · next hopening =>
      rw [hopening] at hc
      refine ih h.tail (fun _ ↦ ?_) hd
      split
      · exact hc
      · next hdepth => exact hfirst (Nat.pos_of_ne_zero hdepth)
    · split at hd
      · next hclosing =>
        split at hd
        · rcases List.mem_cons.1 hd with rfl | hd
          · rw [hclosing] at hc
            have hcovers := Span.covers_single hc
            exact hcovers.marks (List.cons_ne_nil _ _) hcovers.of_eq
          · exact ih h.tail hfirst hd
        · exact ih h.tail (fun _ ↦ hfirst (Nat.succ_pos _)) hd
      · exact ih h.tail hfirst hd

theorem marks_of_mem_pairing {t : Text} {d : Finding} (h : d ∈ pairing t.blocks) : Marks t d := by
  obtain ⟨b, hb, hd⟩ := List.mem_flatMap.1 h
  have hcontent := (Text.placed_of_mem_blocks hb).hasAt_content
  rw [check] at hd
  split at hd
  · cases hd
  · rcases List.mem_append.1 hd with hd | hd
    · obtain ⟨quote, -, hd⟩ := List.mem_flatMap.1 hd
      exact marks_of_mem_quotes hcontent hd
    · obtain ⟨bracket, -, hd⟩ := List.mem_flatMap.1 hd
      exact marks_of_mem_brackets hcontent (fun hpos ↦ absurd hpos (Nat.lt_irrefl 0)) hd

end Pairing

/-! ## Names -/

namespace Reference

/-- The name that has to be known stands in the expression. -/
theorem hasAt_of_required? {content name : Text} (h : required? content = some name) :
    name ≠ [] ∧ ∃ offset, content.HasAt offset name := by
  rw [required?] at h
  split at h
  · next hcond =>
    obtain rfl := Option.some.inj h
    rw [Bool.and_eq_true] at hcond
    refine ⟨fun hnil ↦ ?_, _, ((content.hasAt_upTo '|').trans (Text.hasAt_trim _)).trans
      (Text.hasAt_upTo '.' _)⟩
    rw [hnil] at hcond
    exact Bool.noConfusion hcond.2
  · cases h

theorem marks_of_mem_check {tree : VariableTree} {t : Text} {b : Block} (hb : b ∈ t.blocks)
    {d : Finding} (hd : d ∈ check tree b) : Marks t d := by
  rw [check] at hd
  split at hd
  · next name _ hname =>
    split at hd
    · cases hd
    · obtain rfl := List.mem_singleton.1 hd
      obtain ⟨hne, offset, hat⟩ := hasAt_of_required? hname
      obtain ⟨n, hn⟩ := Option.isSome_iff_exists.1 (Text.find?_isSome_of_hasAt hat)
      have hfound := (Text.placed_of_mem_blocks hb).hasAt_content.trans (Text.hasAt_of_find? hn)
      have hcovers := Span.covers_of_hasAt hfound
      simp only [hn, Option.getD_some]
      exact hcovers.marks hne hcovers.of_eq
  · cases hd

theorem marks_of_mem_undefinedVariables {tree : VariableTree} {t : Text} {d : Finding}
    (hd : d ∈ undefinedVariables tree t.blocks) : Marks t d := by
  rw [undefinedVariables] at hd
  split at hd
  · cases hd
  · obtain ⟨b, hb, hd⟩ := List.mem_flatMap.1 hd
    exact marks_of_mem_check hb hd

end Reference

/-! ## All findings -/

theorem mem_of_mem_withoutOverlaps {others found : List Finding} {d : Finding}
    (h : d ∈ withoutOverlaps others found) : d ∈ found :=
  List.mem_of_mem_filter h

/-- **Every finding marks what it speaks of.** -/
theorem marks_of_mem_lint {settings : Settings} {tree : VariableTree} {t : Text} {d : Finding}
    (h : d ∈ lint settings tree t) : Marks t d := by
  simp only [lint, List.mem_append] at h
  rcases h with (((h | h) | h) | h) | h
  · exact marks_of_mem_mixedDelimiters h
  · split at h
    · exact marks_of_mem_brokenBlocks (mem_of_mem_withoutOverlaps h)
    · exact marks_of_mem_brokenBlocks h
  · exact TagBalance.marks_of_mem_tagBalance h
  · exact Pairing.marks_of_mem_pairing h
  · split at h
    · exact Reference.marks_of_mem_undefinedVariables h
    · cases h

/-- In `{%- endfor (%}` the end tag closes nothing, and the bracket is not closed. -/
theorem marks_of_mem_lint_endfor :
    let t := BlockKind.statement.write "- endfor (".toList
    let strayEnd : Finding := ⟨⟨0, 14⟩, .unexpectedEnd .forTag, .error⟩
    let openBracket : Finding := ⟨⟨11, 12⟩, .unmatchedOpening .parenthesis, .error⟩
    lint {} VariableTree.empty t = [strayEnd, openBracket] ∧ Marks t strayEnd ∧
      Marks t openBracket := by
  intro t strayEnd openBracket
  have hlint : lint {} VariableTree.empty t = [strayEnd, openBracket] := by decide +kernel
  have hstray : strayEnd ∈ lint {} VariableTree.empty t := by
    rw [hlint]
    exact List.mem_cons_self
  have hbracket : openBracket ∈ lint {} VariableTree.empty t := by
    rw [hlint]
    exact List.mem_cons_of_mem _ (List.mem_singleton.2 rfl)
  exact ⟨hlint, marks_of_mem_lint hstray, marks_of_mem_lint hbracket⟩

end TemplateAssist
