import TemplateAssist.Proofs.Cursor.Path
import TemplateAssist.Proofs.Lint.WellFormed
import TemplateAssist.Proofs.Variable.Listing

/-!
# What is offered is accepted

A completion offers the paths of a variable tree, joined from their names.  The checks take an
expression apart again, and look its first name up.  So a path that is offered, put into an
expression, has no finding.

* `IsPath.clean_spaced` — a path in an expression is a clean text;
* `Text.blocks_expression` — it is the only block that is read there;
* `Reference.check_path_eq_nil` — its first name is all that has to be known;
* `lint_offered` — the whole, for every tree of words and all prose around.
-/

set_option autoImplicit false

namespace TemplateAssist

/-! ## A path in an expression -/

open WellFormed in
theorem IsPath.isContent {path : Text} (h : IsPath path) : IsContent path := by
  have hdot : Plain '.' := by
    refine ⟨by decide, by decide, fun q ↦ ?_⟩
    cases q <;> decide
  have hcontent : IsContent (path ++ []) := by
    refine isContent_nil.append (fun c hc ↦ ?_) fun b c hc ↦ ?_
    · rcases isPathChar_iff.1 (h.isPathChar_of_mem c hc) with hword | rfl
      · exact plain_of_isWordChar hword
      · exact hdot
    · rcases isPathChar_iff.1 (h.isPathChar_of_mem c hc) with hword | rfl
      · exact b.has_of_isWordChar hword
      · cases b <;> decide
  rwa [List.append_nil] at hcontent

theorem IsPath.not_mem {path : Text} (h : IsPath path) {c : Char} (hc : isPathChar c = false) :
    c ∉ path := by
  intro hmem
  rw [h.isPathChar_of_mem c hmem] at hc
  cases hc

theorem IsPath.trim_eq {path : Text} (h : IsPath path) : path.trim = path :=
  Text.trim_of_not_blank fun c hc ↦ isBlank_of_isPathChar (h.isPathChar_of_mem c hc)

theorem IsPath.holds {path : Text} (h : IsPath path) : BlockKind.expression.Holds path := by
  have hpercent : '%' ∉ path := h.not_mem (by decide)
  refine ⟨h.isContent.fits (by decide), h.isContent.braceFree, fun _ ↦ ?_⟩
  rw [h.trim_eq]
  exact ⟨fun hhead ↦ hpercent (List.mem_of_head? hhead),
    fun hlast ↦ hpercent (List.mem_of_getLast? hlast)⟩

theorem IsPath.clean_spaced {path : Text} (h : IsPath path) (settings : Settings) :
    Clean settings (BlockKind.expression.spaced path) :=
  TemplateAssist.clean_spaced h.holds fun offset ↦
    silent_of_neutral rfl rfl (h.isContent.check_eq_nil _ offset)

/-- An expression between prose is the only block there. -/
theorem Text.blocks_expression {p inner s : Text} (hp : p.BraceFree) (hs : s.BraceFree)
    (h : BlockKind.expression.Holds inner) :
    Text.blocks (p ++ (BlockKind.expression.spaced inner ++ s))
      = [BlockKind.expression.spacedBlock p.length inner] := by
  have hp' : '{' ∉ p := fun hmem ↦ (hp _ hmem).1 rfl
  have hs' : '{' ∉ s := fun hmem ↦ (hs _ hmem).1 rfl
  refine (blocks_brokenBlocks_of_items_eq ?_).1
  rw [items_eq_region, Region.items_prose 0 _ hp', h.items_spaced, ← List.append_nil s,
    Region.items_prose _ [] hs', Region.items_none_nil, Nat.zero_add]
  rfl

/-! ## Looking up its first name -/

namespace Reference

theorem eq_root_of_required? {content name : Text} (h : required? content = some name) :
    name = root (base content) := by
  simp only [required?] at h
  split at h
  · exact (Option.some.inj h).symm
  · cases h

/-- Nothing is reported where the root of the expression is known. -/
theorem check_eq_nil {tree : VariableTree} {b : Block}
    (h : tree.contains (root (base b.content)) = true) : check tree b = [] := by
  unfold check
  split
  · next name _ hrequired => rw [eq_root_of_required? hrequired, if_pos h]
  · rfl

theorem base_path {path : Text} (h : IsPath path) : base path = path := by
  rw [base, Text.upTo_of_not_mem (h.not_mem (by decide)), h.trim_eq]

/-- Nothing is reported for a path whose first name is known. -/
theorem check_path_eq_nil {tree : VariableTree} {path : Text} (offset : Nat) (h : IsPath path)
    (hroot : root path ∈ tree.names) :
    check tree (BlockKind.expression.spacedBlock offset path) = [] := by
  have hblank : ∀ c ∈ [' '], isBlank c = true := List.all_eq_true.1 rfl
  have hcontent : (BlockKind.expression.spacedBlock offset path).content = path :=
    (Text.trim_append_blanks path hblank hblank).trans h.trim_eq
  refine check_eq_nil ?_
  rw [hcontent, base_path h]
  exact List.contains_iff_mem.2 hroot

end Reference

/-! ## The paths of a tree -/

/-- What is offered for a tree of words are paths that start with a top-level name. -/
theorem VariableTree.isPath_of_mem_flatten {tree : VariableTree}
    (htree : tree.root.EveryName IsWord) {c : Candidate} (hc : c ∈ tree.flatten) :
    IsPath c.insertion ∧ Reference.root c.insertion ∈ tree.names := by
  rw [flatten_eq_map_listing (htree.mono fun _ h name hname ↦ (h name hname).1)] at hc
  obtain ⟨e, he, rfl⟩ := List.mem_map.1 hc
  have hwords := Node.forall_mem_names_of_mem_listing htree e he
  have hdots : ∀ name ∈ e.names, '.' ∉ name := fun name hname ↦ (hwords name hname).dot_not_mem
  constructor
  · intro name hname
    rw [Entry.insertion_candidate,
      List.splitOn_intercalate '.' hdots (Node.names_ne_nil_of_mem_listing he)] at hname
    exact hwords name hname
  · rw [Node.listing_eq_flatMap] at he
    obtain ⟨child, hchild, he⟩ := List.mem_flatMap.1 he
    obtain ⟨names, hnames⟩ := Node.exists_names_of_mem_listingOfChild he
    rw [hnames] at hdots
    rw [Entry.insertion_candidate, hnames, Reference.root,
      Text.upTo_intercalate names (hdots _ List.mem_cons_self)]
    exact List.mem_map_of_mem hchild

/-- **What is offered is accepted.**  Every path of a tree whose names are words, put into an
expression with any prose around it, has no finding. -/
theorem lint_offered (settings : Settings) {tree : VariableTree}
    (htree : tree.root.EveryName IsWord) {c : Candidate} (hc : c ∈ tree.flatten) {p s : Text}
    (hp : p.BraceFree) (hs : s.BraceFree) :
    lint settings tree (p ++ (BlockKind.expression.spaced c.insertion ++ s)) = [] := by
  obtain ⟨hpath, hroot⟩ := tree.isPath_of_mem_flatten htree hc
  have hblock : Clean settings (BlockKind.expression.spaced c.insertion ++ s) :=
    (hpath.clean_spaced settings).append (clean_prose settings hs)
  have hclean := (clean_prose settings hp).append hblock
  have hundefined : undefinedVariables tree
      (Text.blocks (p ++ (BlockKind.expression.spaced c.insertion ++ s))) = [] := by
    rw [Text.blocks_expression hp hs hpath.holds, undefinedVariables, List.flatMap_singleton,
      Reference.check_path_eq_nil _ hpath hroot, ite_self]
  rw [hclean.lint_eq, hundefined, ite_self]

/-- A path that looks like a number, between a quote and a percent sign. -/
theorem lint_offered_number :
    let tree : VariableTree := ⟨[(['1'], .object [(['5'], .leaf "half")])]⟩
    let c : Candidate := (Node.leaf "half").candidate ['1'] ['5']
    c ∈ tree.flatten ∧ c.insertion = "1.5".toList ∧
      lint {} tree (['\''] ++ (BlockKind.expression.spaced c.insertion ++ ['%'])) = [] := by
  intro tree c
  have hc : c ∈ tree.flatten := by decide
  have hbelow : (Node.object [(['5'], .leaf "half")]).EveryName IsWord :=
    .object (by decide) (List.forall_mem_singleton.2 (.leaf _))
  have htree : tree.root.EveryName IsWord :=
    .object (by decide) (List.forall_mem_singleton.2 hbelow)
  exact ⟨hc, rfl, lint_offered {} htree hc (by simp [Text.BraceFree]) (by simp [Text.BraceFree])⟩

end TemplateAssist
