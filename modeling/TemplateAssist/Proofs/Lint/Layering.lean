import TemplateAssist.Lint
import TemplateAssist.Proofs.Lint.UnknownNames
import TemplateAssist.Proofs.Variable.Merging

/-!
# Findings under more variables

A tree of variables laid over another makes more names known, whatever happens to the nodes below
the top level.  So what `lint` finds with the merged tree is what it finds with the lower one,
without the findings about names of the upper one (`lint_merge`).  This needs the lower tree not to
be empty: with the empty tree names are not looked at, and any variable added to it can bring
findings forth.

* `VariableTree.mem_names_merge` — the known names are those of both trees;
* `lint_eq_append` — only the last part of the findings depends on the variables;
* `nameless_of_mem_lint_empty` — the other part has nothing about names;
* `undefinedVariables_congr`, `undefinedVariables_merge` — what the last part makes of the names.
-/

set_option autoImplicit false

namespace TemplateAssist

/-! ## Known names -/

theorem Node.mem_names_mergeChildren {lower upper : Children} {name : Text} :
    name ∈ Children.names (mergeChildren lower upper) ↔
      name ∈ lower.names ∨ name ∈ upper.names := by
  induction upper generalizing lower with
  | nil => simp [Children.names]
  | cons child upper ih =>
    obtain ⟨key, node⟩ := child
    rw [mergeChildren_cons, ih, Children.names_alter, Children.names_cons]
    by_cases hkey : key ∈ lower.names
    · have hmem : name = key → name ∈ lower.names := fun heq ↦ heq ▸ hkey
      simp only [if_pos hkey, List.mem_cons]
      tauto
    · simp [hkey, or_assoc]

namespace VariableTree

variable {lower upper : VariableTree}

theorem mem_names_merge {name : Text} :
    name ∈ (lower.merge upper).names ↔ name ∈ lower.names ∨ name ∈ upper.names :=
  Node.mem_names_mergeChildren

theorem size_eq_zero_iff {tree : VariableTree} : tree.size = 0 ↔ ∀ name, name ∉ tree.names := by
  rw [size, List.length_eq_zero_iff, ← List.eq_nil_iff_forall_not_mem, names, Children.names,
    List.map_eq_nil_iff]

theorem size_merge_ne_zero (h : lower.size ≠ 0) : (lower.merge upper).size ≠ 0 := by
  simp only [Ne, size_eq_zero_iff, mem_names_merge] at h ⊢
  exact fun hnone ↦ h fun name hname ↦ hnone name (.inl hname)

end VariableTree

/-! ## Findings that are not about names -/

/-- The problem is not about an unknown name. -/
def Problem.Nameless (p : Problem) : Prop := ∀ name, p ≠ .undefinedVariable name

theorem nameless_of_mem_mixedDelimiters {t : Text} {d : Finding} (h : d ∈ t.mixedDelimiters) :
    d.problem.Nameless := by
  obtain ⟨span, -, rfl⟩ := List.mem_map.1 h
  simp [Problem.Nameless]

theorem nameless_of_mem_brokenBlocks {t : Text} {d : Finding} (h : d ∈ t.brokenBlocks) :
    d.problem.Nameless := by
  obtain ⟨item, -, hd⟩ := List.mem_filterMap.1 h
  cases item with
  | block => cases hd
  | mismatch offset expected found =>
    obtain rfl := Option.some.inj hd
    simp [Problem.Nameless]
  | unclosed start stop =>
    obtain rfl := Option.some.inj hd
    simp [Problem.Nameless]

namespace TagBalance

variable {settings : Settings} {d : Finding}

theorem nameless_of_mem_react {b : Block} {span : Span Nat} {word : Text} {stack : List Pending}
    {e : Event} (h : d ∈ (react b span word stack e).2) : d.problem.Nameless := by
  cases e with
  | closes tag => cases stack <;> grind [react, Problem.Nameless]
  | _ => grind [react, Problem.Nameless]

theorem nameless_of_mem_visit {b : Block} {stack : List Pending}
    (h : d ∈ (visit settings b stack).2) : d.problem.Nameless := by
  unfold visit at h
  split at h
  · rcases List.mem_append.1 h with h | h
    · obtain ⟨meant, -, rfl⟩ := Option.map_eq_some_iff.1 (Option.mem_toList.1 h)
      simp [Problem.Nameless]
    · exact nameless_of_mem_react h
  · cases h

theorem nameless_of_mem_check {stack : List Pending} {blocks : List Block}
    (h : d ∈ check settings stack blocks) : d.problem.Nameless := by
  induction blocks generalizing stack with
  | nil =>
    obtain ⟨p, -, rfl⟩ := List.mem_map.1 h
    simp [Problem.Nameless, Pending.unclosed]
  | cons b blocks ih =>
    rcases List.mem_append.1 h with h | h
    · exact nameless_of_mem_visit h
    · exact ih h

end TagBalance

namespace Pairing

variable {d : Finding}

theorem nameless_of_mem_brackets {bracket : Bracket} {offset depth first : Nat} {t : Text}
    (h : d ∈ brackets bracket offset depth first t) : d.problem.Nameless := by
  fun_induction brackets bracket offset depth first t <;> grind [Problem.Nameless]

theorem nameless_of_mem_check {b : Block} (h : d ∈ check b) : d.problem.Nameless := by
  rw [check] at h
  split at h
  · cases h
  · rcases List.mem_append.1 h with h | h
    · obtain ⟨quote, -, h⟩ := List.mem_flatMap.1 h
      grind [quotes, Problem.Nameless]
    · obtain ⟨bracket, -, h⟩ := List.mem_flatMap.1 h
      exact nameless_of_mem_brackets h

end Pairing

/-- Only the last part of the findings depends on the variables. -/
theorem lint_eq_append (settings : Settings) (tree : VariableTree) (t : Text) :
    lint settings tree t = lint settings .empty t
      ++ if settings.checkUndefinedVariables then undefinedVariables tree t.blocks else [] := by
  simp [lint, undefinedVariables, VariableTree.empty, VariableTree.size]

theorem nameless_of_mem_lint_empty {settings : Settings} {t : Text} {d : Finding}
    (h : d ∈ lint settings .empty t) : d.problem.Nameless := by
  simp only [lint, List.mem_append] at h
  rcases h with (((h | h) | h) | h) | h
  · exact nameless_of_mem_mixedDelimiters h
  · split at h
    · exact nameless_of_mem_brokenBlocks (List.mem_of_mem_filter h)
    · exact nameless_of_mem_brokenBlocks h
  · exact TagBalance.nameless_of_mem_check h
  · obtain ⟨b, -, h⟩ := List.mem_flatMap.1 h
    exact Pairing.nameless_of_mem_check h
  · simp [undefinedVariables, VariableTree.empty, VariableTree.size] at h

/-! ## Findings about names -/

/-- Only which names are known matters. -/
theorem undefinedVariables_congr {a b : VariableTree} (h : ∀ name, name ∈ a.names ↔ name ∈ b.names)
    (blocks : List Block) : undefinedVariables a blocks = undefinedVariables b blocks := by
  have hsize : a.size = 0 ↔ b.size = 0 := by
    simp only [VariableTree.size_eq_zero_iff, h]
  have hcontains : a.contains = b.contains := by
    funext name
    rw [Bool.eq_iff_iff, VariableTree.contains_iff, VariableTree.contains_iff, h]
  have hcheck : Reference.check a = Reference.check b := by
    funext block
    simp only [Reference.check, hcontains]
  simp only [undefinedVariables, hsize, hcheck]

/-- The finding is about a name that the tree has. -/
def Diagnostic.NamedIn (tree : VariableTree) (d : Finding) : Prop :=
  ∃ name ∈ tree.names, d.problem = .undefinedVariable name

instance (tree : VariableTree) (d : Finding) : Decidable (d.NamedIn tree) :=
  inferInstanceAs (Decidable (∃ name ∈ tree.names, d.problem = .undefinedVariable name))

theorem Problem.Nameless.not_namedIn {d : Finding} (h : d.problem.Nameless) (tree : VariableTree) :
    ¬ d.NamedIn tree := fun ⟨name, _, heq⟩ ↦ h name heq

theorem namedIn_undefinedVariable {tree : VariableTree} {span : Span Nat} {name : Text}
    {severity : Severity} :
    Diagnostic.NamedIn tree ⟨span, .undefinedVariable name, severity⟩ ↔ name ∈ tree.names := by
  simp [Diagnostic.NamedIn]

namespace Reference

variable (lower upper : VariableTree)

/-- One block: what is found with both trees is found with the lower one, and is not about a name
of the upper one. -/
theorem check_merge (b : Block) :
    check (lower.merge upper) b = (check lower b).filter fun d ↦ ¬ d.NamedIn upper := by
  unfold check
  split
  · next name _ _ =>
    have hmerge : (lower.merge upper).contains name = true ↔
        lower.contains name = true ∨ name ∈ upper.names := by
      simp only [VariableTree.contains_iff, VariableTree.mem_names_merge]
    by_cases hlower : lower.contains name = true
    · rw [if_pos (hmerge.2 (.inl hlower)), if_pos hlower, List.filter_nil]
    · rw [if_neg hlower, List.filter_singleton]
      by_cases hupper : name ∈ upper.names <;>
        simp [hmerge, hlower, hupper, namedIn_undefinedVariable]
  · rfl

/-- All blocks. -/
theorem undefinedVariables_merge (h : lower.size ≠ 0) (blocks : List Block) :
    undefinedVariables (lower.merge upper) blocks
      = (undefinedVariables lower blocks).filter fun d ↦ ¬ d.NamedIn upper := by
  rw [undefinedVariables, undefinedVariables, if_neg (VariableTree.size_merge_ne_zero h), if_neg h,
    List.filter_flatMap]
  exact congrArg (blocks.flatMap ·) (funext (check_merge lower upper))

end Reference

/-! ## All findings -/

/-- **Variables laid over others** take away the findings about their top-level names and nothing
else, as long as there were variables before, and the order of the findings stays.  Which of two
trees is laid over the other makes no difference to the findings, even where a node of one hides
those of the other. -/
theorem lint_merge (settings : Settings) (t : Text) (lower upper : VariableTree) :
    (lower.size ≠ 0 → lint settings (lower.merge upper) t
      = (lint settings lower t).filter fun d ↦ ¬ d.NamedIn upper) ∧
    lint settings (lower.merge upper) t = lint settings (upper.merge lower) t := by
  constructor
  · intro h
    have hrest : (lint settings .empty t).filter (fun d ↦ ¬ d.NamedIn upper)
        = lint settings .empty t :=
      List.filter_eq_self.2 fun d hd ↦
        decide_eq_true ((nameless_of_mem_lint_empty hd).not_namedIn upper)
    rw [lint_eq_append, lint_eq_append settings lower, List.filter_append, hrest,
      Reference.undefinedVariables_merge lower upper h]
    cases settings.checkUndefinedVariables <;> rfl
  · have hnames : ∀ name, name ∈ (lower.merge upper).names ↔ name ∈ (upper.merge lower).names :=
      fun name ↦ by rw [VariableTree.mem_names_merge, VariableTree.mem_names_merge, or_comm]
    rw [lint_eq_append, lint_eq_append settings (upper.merge lower),
      undefinedVariables_congr hnames]

/-- An array is laid over an object, and a variable is added: of three unknown names one is left,
and so is the bracket that is not closed. -/
theorem lint_merge_hidden :
    let lower : VariableTree := ⟨[("page".toList, .object [("title".toList, .leaf "")])]⟩
    let upper : VariableTree := ⟨[("user".toList, .leaf ""), ("page".toList, .array)]⟩
    let t : Text := BlockKind.expression.spaced "user.name".toList
      ++ BlockKind.expression.spaced "site".toList ++ BlockKind.statement.spaced "(".toList
      ++ BlockKind.expression.spaced "user".toList
      ++ BlockKind.expression.spaced "page.title".toList
    let bracket : Finding := ⟨⟨28, 29⟩, .unmatchedOpening .parenthesis, .error⟩
    let site : Finding := ⟨⟨18, 22⟩, .undefinedVariable "site".toList, .error⟩
    lower.size ≠ 0 ∧ (lint {} lower t).length = 4 ∧
      lint {} (lower.merge upper) t = [bracket, site] ∧
      lint {} (upper.merge lower) t = [bracket, site] := by
  intro lower upper t bracket site
  have hsize : lower.size ≠ 0 := by decide
  obtain ⟨hfilter, hswap⟩ := lint_merge {} t lower upper
  have hmerge : lint {} (lower.merge upper) t = [bracket, site] :=
    (hfilter hsize).trans (by decide +kernel)
  exact ⟨hsize, by decide +kernel, hmerge, hswap ▸ hmerge⟩

end TemplateAssist
