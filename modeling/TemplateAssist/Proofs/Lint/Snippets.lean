import TemplateAssist.Proofs.Lint.WellFormed
import TemplateAssist.Snippet

/-!
# Snippets lint clean

A snippet is filled with texts that can hold line ends, backslashes and operators, and with
numbers.  If its texts have no braces, quotes, brackets or percent signs (`Text.Harmless`), and its
body no braces, no check has anything to report for the code that is written.

* `Text.Harmless.isContent` — harmless texts can stand in blocks;
* `harmless_toString`, `Binary64.harmless_toText` — numbers are harmless, however they are written;
* `lint_expression` — an expression that stands alone is judged by its brackets and by how many
  quotes it has, whether they make string literals or not;
* `clean_statementWithBody` — the snippets with a body;
* `SnippetFields.lint_renderSnippet` — all kinds of snippet.
-/

set_option autoImplicit false

namespace TemplateAssist

/-! ## Harmless texts -/

namespace Text

/-- A text has none of some signs. -/
def Avoids (signs : List Char) (t : Text) : Prop := ∀ c ∈ t, c ∉ signs

instance (signs : List Char) (t : Text) : Decidable (t.Avoids signs) := List.decidableBAll _ t

namespace Avoids

variable {signs signs' : List Char} {t u : Text}

theorem append (ht : t.Avoids signs) (hu : u.Avoids signs) : Avoids signs (t ++ u) :=
  List.forall_mem_append.2 ⟨ht, hu⟩

theorem of_subset (hu : u.Avoids signs) (h : t ⊆ u) : t.Avoids signs := fun c hc ↦ hu c (h hc)

theorem mono (ht : t.Avoids signs) (h : signs' ⊆ signs) : t.Avoids signs' :=
  fun c hc hmem ↦ ht c hc (h hmem)

theorem not_mem (ht : t.Avoids signs) {c : Char} (hc : c ∈ signs) : c ∉ t :=
  fun hmem ↦ ht c hmem hc

end Avoids

/-- A text without characters that mean something to a check. -/
def Harmless (t : Text) : Prop := t.Avoids ['{', '}', '"', '\'', '(', ')', '[', ']', '%']

instance (t : Text) : Decidable t.Harmless :=
  inferInstanceAs (Decidable (t.Avoids ['{', '}', '"', '\'', '(', ')', '[', ']', '%']))

namespace Harmless

variable {t u : Text}

theorem append (ht : t.Harmless) (hu : u.Harmless) : Harmless (t ++ u) := Avoids.append ht hu

theorem of_subset (hu : u.Harmless) (h : t ⊆ u) : t.Harmless := Avoids.of_subset hu h

theorem avoids (h : t.Harmless) : t.Avoids ['{', '}', '%'] := Avoids.mono h (by decide)

theorem plain (h : t.Harmless) {c : Char} (hc : c ∈ t) : WellFormed.Plain c := by
  refine ⟨?_, ?_, fun q ↦ ?_⟩
  · rintro rfl; exact h _ hc (by decide)
  · rintro rfl; exact h _ hc (by decide)
  · rintro rfl; exact h _ hc (by cases q <;> decide)

theorem has_eq_false (h : t.Harmless) {c : Char} (hc : c ∈ t) (b : Bracket) :
    b.has c = false := by
  rw [Bool.eq_false_iff]
  intro hb
  rw [Bracket.has, Bool.or_eq_true, beq_iff_eq, beq_iff_eq] at hb
  rcases hb with rfl | rfl <;> exact h _ hc (by cases b <;> decide)

theorem filter_has (h : t.Harmless) (b : Bracket) : t.filter b.has = [] :=
  List.filter_eq_nil_iff.2 fun c hc ↦ by simp [h.has_eq_false hc b]

theorem count_quote (h : t.Harmless) (q : Quote) : t.count q.char = 0 :=
  List.count_eq_zero.2 fun hq ↦ (h.plain hq).2.2 q rfl

theorem isContent_append (h : t.Harmless) (hu : WellFormed.IsContent u) :
    WellFormed.IsContent (t ++ u) :=
  hu.append (fun _ hc ↦ h.plain hc) fun b _ hc ↦ h.has_eq_false hc b

theorem isContent (h : t.Harmless) : WellFormed.IsContent t := by
  have hcontent := h.isContent_append WellFormed.isContent_nil
  rwa [List.append_nil] at hcontent

end Harmless

end Text

/-! ## Numbers -/

theorem harmless_toDigits (n : Nat) : Text.Harmless (Nat.toDigits 10 n) := by
  have hsigns : ['{', '}', '"', '\'', '(', ')', '[', ']', '%'].all (!Char.isDigit ·) = true := by
    decide
  intro c hc hmem
  have hsign := List.all_eq_true.1 hsigns c hmem
  rw [Nat.isDigit_of_mem_toDigits (by decide) (by decide) hc] at hsign
  cases hsign

theorem harmless_toString (n : Int) : Text.Harmless (toString n).toList := by
  rw [Int.toString_eq_repr, Int.repr_eq_if]
  split
  · rw [Nat.repr_eq_ofList_toDigits, String.toList_ofList]
    exact harmless_toDigits _
  · simp only [String.toList_append, Nat.repr_eq_ofList_toDigits, String.toList_ofList]
    exact .append (by decide) (harmless_toDigits _)

theorem harmless_zeros (n : Nat) : Text.Harmless (List.replicate n '0') := by
  intro c hc
  rw [List.eq_of_mem_replicate hc]
  decide

theorem Shortest.harmless_digits (mantissa : Nat) (exponent : Int) :
    Text.Harmless (digits mantissa exponent).1 := by
  have hsignificant : ∀ n : Nat,
      Text.Harmless ((Nat.toDigits 10 n).reverse.dropWhile (· == '0')).reverse := by
    refine fun n ↦ (harmless_toDigits n).of_subset fun c hc ↦ ?_
    exact List.mem_reverse.1 (List.dropWhile_subset _ (List.mem_reverse.1 hc))
  unfold digits
  dsimp only
  split
  · exact harmless_zeros 0
  · exact hsignificant _

namespace Binary64

theorem harmless_positional {digits : Text} (h : digits.Harmless) (point : Int) :
    Text.Harmless (positional digits point) := by
  rw [positional]
  split
  · exact .append (.append (by decide) (harmless_zeros _)) h
  · refine .append (.append (.append ?_ (harmless_zeros _)) (by decide)) ?_
    · exact h.of_subset (List.take_subset _ _)
    · split
      · decide
      · exact h.of_subset (List.drop_subset _ _)

theorem harmless_scientific {digits : Text} (h : digits.Harmless) (point : Int) :
    Text.Harmless (scientific digits point) := by
  rw [scientific]
  refine .append (.append (.append (.append ?_ ?_) ?_) (harmless_zeros _)) (harmless_toDigits _)
  · exact h.of_subset (List.take_subset _ _)
  · split
    · decide
    · exact .append (t := ['.']) (by decide) (h.of_subset (List.drop_subset _ _))
  · split <;> decide

theorem harmless_toText (x : Binary64) : Text.Harmless x.toText := by
  have hsign : ∀ negative : Bool, Text.Harmless (if negative then ['-'] else []) := by decide
  cases x with
  | nan => decide
  | infinite negative => exact .append (hsign negative) (by decide)
  | finite negative mantissa exponent =>
    have hdigits := Shortest.harmless_digits mantissa exponent
    rw [toText]
    generalize Shortest.digits mantissa exponent = written at hdigits ⊢
    by_cases hzero : mantissa = 0
    · rw [if_pos hzero]
      exact .append (hsign negative) (by decide)
    · rw [if_neg hzero]
      refine .append (hsign negative) ?_
      split
      · exact harmless_positional hdigits written.2
      · exact harmless_scientific hdigits written.2

end Binary64

/-! ## Expressions and statements -/

theorem inExpression_eq (inner : Text) :
    inExpression inner = BlockKind.expression.spaced inner := by
  simp [inExpression, BlockKind.spaced, BlockKind.write, BlockKind.opener, BlockKind.closer]

theorem inStatement_eq (inner : Text) :
    inStatement inner = BlockKind.statement.spaced inner := by
  simp [inStatement, BlockKind.spaced, BlockKind.write, BlockKind.opener, BlockKind.closer]

theorem ends_ne_percent {inner : Text} (h : '%' ∉ inner) :
    inner.trim.head? ≠ some '%' ∧ inner.trim.getLast? ≠ some '%' := by
  have htrim : '%' ∉ inner.trim := by rwa [Text.mem_trim_iff (by decide)]
  exact ⟨fun hh ↦ htrim (List.mem_of_mem_head? hh), fun hl ↦ htrim (List.mem_of_getLast? hl)⟩

/-- **An expression that stands alone** has no findings if it has no braces and no percent signs in
it, an even number of each quote, and balanced brackets. -/
theorem lint_expression {settings : Settings} {inner : Text}
    (havoids : inner.Avoids ['{', '}', '%'])
    (hquotes : ∀ q : Quote, inner.count q.char % 2 = 0)
    (hbrackets : ∀ b : Bracket, b.Balanced inner) :
    lint settings VariableTree.empty (inExpression inner) = [] := by
  have hpercent : '%' ∉ inner := havoids.not_mem (by decide)
  have hbraces : inner.BraceFree := by
    intro c hc
    have hsigns := havoids c hc
    simp only [List.mem_cons, not_or] at hsigns
    exact ⟨hsigns.1, hsigns.2.1⟩
  have hunmixed : Text.Unmixed (BlockKind.expression.spaced inner ++ []) :=
    (Text.Unmixed.spaced .nil Text.capped_nil hbraces fun _ ↦ ends_ne_percent hpercent).1
  have hitems : Text.items (BlockKind.expression.spaced inner)
      = [.block (BlockKind.expression.spacedBlock 0 inner)] := by
    rw [Text.items_eq_region]
    refine Region.items_write_last 0 ?_ fun _ ↦ ?_
    · simpa using fun hm ↦ (hbraces _ hm).2 rfl
    · simp [Region.EndsOpen, List.getLast?_cons, List.getLast?_append]
  have hcheck : Pairing.check (BlockKind.expression.spacedBlock 0 inner) = [] := by
    refine Pairing.check_ofRaw_eq_nil (fun q ↦ ?_) fun b ↦ Bracket.balanced_spaced.2 (hbrackets b)
    have hblank : ' ' ≠ q.char := by cases q <;> decide
    simpa [List.count_cons, hblank] using hquotes q
  rw [List.append_nil] at hunmixed
  rw [inExpression_eq, (silent_of_neutral rfl rfl hcheck).lint_eq hitems hunmixed]
  split <;> rfl

/-- An expression with a harmless text in it can stand anywhere. -/
theorem clean_expression (settings : Settings) {inner : Text} (h : inner.Harmless) :
    Clean settings (inExpression inner) := by
  have hc := h.isContent
  have hpercent : '%' ∉ inner := h.avoids.not_mem (by decide)
  rw [inExpression_eq]
  refine clean_spaced ⟨hc.fits (by decide), hc.braceFree, fun _ ↦ ends_ne_percent hpercent⟩
    fun offset ↦ ?_
  exact silent_of_neutral rfl rfl (hc.check_eq_nil _ offset)

/-- A statement that opens a body can stand anywhere with a body and its end tag. -/
theorem clean_statementWithBody {settings : Settings} {rest body : Text} (tag : Tag)
    (htag : tag ≠ .setTag) (hrest : WellFormed.IsContent rest)
    (hhead : (rest ++ [' ']).head? = some ' ') (hbody : Clean settings body) :
    Clean settings (statementWithBody (tag.name.toList ++ rest) body tag.endName.toList) := by
  have hindent : Text.BraceFree ['\n', ' ', ' '] := by simp [Text.BraceFree]
  have hline : Text.BraceFree ['\n'] := by simp [Text.BraceFree]
  have hinner := (clean_prose settings hindent).append (hbody.append (clean_prose settings hline))
  have hclean := WellFormed.clean_tagged hrest hhead (fun h ↦ absurd h htag) hinner
  rw [statementWithBody, inStatement_eq, inStatement_eq]
  simpa only [List.append_assoc] using hclean

/-! ## Snippets -/

namespace SnippetFields

/-- The fields of a snippet have no characters that mean something to a check where they are put. -/
structure Harmless (f : SnippetFields) : Prop where
  texts : ∀ t ∈ [f.symbol, f.field, f.item, f.collection, f.condition, f.path, f.value, f.filter],
    Text.Harmless t
  content : ∀ t, f.content = some t → t.BraceFree

variable {settings : Settings} {f : SnippetFields}

theorem Harmless.clean_body {otherwise : Text} (h : f.Harmless)
    (hotherwise : Clean settings otherwise) : Clean settings (f.body otherwise) := by
  rw [body]
  split
  · next hcontent => exact clean_prose settings (h.content _ hcontent)
  · exact hotherwise

/-- A backslash or a line end in the symbol keeps its quotes from being a literal, so this snippet
is clean only because nothing comes after it. -/
theorem lint_rollup (hsymbol : f.symbol.Harmless) (hfield : f.field.Harmless) (today : Date) :
    lint settings VariableTree.empty (renderSnippet .rollup f today) = [] := by
  refine lint_expression ?_ (fun q ↦ ?_) fun b ↦ ?_
  · exact .append (.append (.append (by decide) hsymbol.avoids) (by decide)) hfield.avoids
  · simp only [List.count_append, hsymbol.count_quote, hfield.count_quote]
    cases q <;> decide
  · simp only [Bracket.Balanced, List.filter_append, hsymbol.filter_has, hfield.filter_has]
    cases b with
    | parenthesis => exact .nil
    | square => exact .pair .nil .nil
    | brace => exact .nil

theorem lint_similarHeadlines (f : SnippetFields) (today : Date) :
    lint settings VariableTree.empty (renderSnippet .similarHeadlines f today) = [] := by
  have hdays := harmless_toString (f.lookbackDays today)
  have hthreshold := f.similarityThreshold.harmless_toText
  have hlimit := harmless_toDigits f.limit
  refine lint_expression ?_ (fun q ↦ ?_) fun b ↦ ?_
  · exact .append (.append (.append (.append (.append (.append (by decide) hdays.avoids)
      (by decide)) hthreshold.avoids) (by decide)) hlimit.avoids) (by decide)
  · simp only [List.count_append, hdays.count_quote, hthreshold.count_quote, hlimit.count_quote]
    cases q <;> decide
  · simp only [Bracket.Balanced, List.filter_append, hdays.filter_has, hthreshold.filter_has,
      hlimit.filter_has]
    cases b with
    | parenthesis => exact .pair .nil .nil
    | square => exact .nil
    | brace => exact .nil

/-- **Every snippet lints clean**, whatever the settings are. -/
theorem lint_renderSnippet (settings : Settings) (kind : SnippetKind) (h : f.Harmless)
    (today : Date) : lint settings VariableTree.empty (renderSnippet kind f today) = [] := by
  obtain ⟨hsymbol, hfield, hitem, hcollection, hcondition, hpath, hvalue, hfilter⟩ :
      f.symbol.Harmless ∧ f.field.Harmless ∧ f.item.Harmless ∧ f.collection.Harmless ∧
        f.condition.Harmless ∧ f.path.Harmless ∧ f.value.Harmless ∧ f.filter.Harmless := by
    simpa using h.texts
  cases kind with
  | rollup => exact lint_rollup hsymbol hfield today
  | forLoop =>
    have hloop : Text.Harmless (f.item ++ " in ".toList ++ f.collection) :=
      (hitem.append (by decide)).append hcollection
    exact (clean_statementWithBody .forTag (by decide) hloop.isContent.blank rfl
      (h.clean_body (clean_expression settings hitem))).lint_eq_nil
  | ifStatement =>
    have hbody : Clean settings "true content".toList :=
      clean_prose settings (by simp [Text.BraceFree])
    exact (clean_statementWithBody .ifTag (by decide) hcondition.isContent.blank rfl
      (h.clean_body hbody)).lint_eq_nil
  | variableReference => exact (clean_expression settings hpath).lint_eq_nil
  | filtered =>
    exact (clean_expression settings ((hvalue.append (by decide)).append hfilter)).lint_eq_nil
  | similarHeadlines => exact lint_similarHeadlines f today

/-- The symbol ends with a backslash, so the second quote of the rollup does not end a literal; the
item ends with a number sign; and the body has a quote and a percent sign. -/
theorem lint_renderSnippet_backslash :
    let f : SnippetFields :=
      { symbol := "b\\".toList, item := "a\n#".toList, content := some "100%\"".toList,
        startDate := some ⟨2024, 3, 1⟩ }
    let today : Date := ⟨2024, 2, 20⟩
    f.Harmless ∧ f.lookbackDays today = -9 ∧
      lint {} VariableTree.empty (renderSnippet .rollup f today) = [] ∧
      lint {} VariableTree.empty (renderSnippet .forLoop f today) = [] ∧
      lint {} VariableTree.empty (renderSnippet .similarHeadlines f today) = [] := by
  intro f today
  have h : f.Harmless := by
    refine ⟨by decide, fun t ht ↦ ?_⟩
    obtain rfl := Option.some.inj ht
    simp [Text.BraceFree]
  exact ⟨h, by decide, lint_renderSnippet {} .rollup h today,
    lint_renderSnippet {} .forLoop h today, lint_renderSnippet {} .similarHeadlines h today⟩

end SnippetFields

end TemplateAssist
