import TemplateAssist.Completion.Candidate
import TemplateAssist.Proofs.Variable.Names

/-!
# The listing of a variable tree

Three functions go through a variable tree in their own ways: `VariableTree.get?` follows the names
of a path, `VariableTree.properties` lists the children of one object, and `VariableTree.flatten`
lists all nodes with their paths put together from texts.  This file compares them through a fourth
one, `Node.listing`, which lists all nodes with the *lists of names* that lead to them.

* `Node.mem_listing_iff` — a node is listed with the names that lead to it, and nothing else is;
* `Node.nodup_listing` — no names are listed twice;
* `Node.exists_listing_eq` — a node is followed by all that is below it;
* `Node.flatten_eq_map_listing` — what `flatten` gives is the listing with names joined by dots;
* `VariableTree.Built.flatten_get?_properties` — so in every tree that is built, the three functions
  agree.
-/

set_option autoImplicit false

namespace TemplateAssist

/-! ## Listing nodes with their names -/

/-- A node with the names that lead to it. -/
@[ext]
structure Entry where
  names : List Text
  node : Node

/-- An entry of a listing, seen from further up the tree. -/
def Entry.under (above : List Text) (e : Entry) : Entry := { e with names := above ++ e.names }

theorem Entry.under_under (above names : List Text) (e : Entry) :
    (e.under names).under above = e.under (above ++ names) := by
  rw [under, under, under, List.append_assoc]

namespace Node

mutual

/-- All nodes below a node.  Each child is followed by what is below it. -/
def listing : Node → List Entry
  | .object children => listingOf children
  | _ => []

/-- All nodes that are among some children or below them. -/
def listingOf : List (Text × Node) → List Entry
  | [] => []
  | (name, node) :: rest =>
    ⟨[name], node⟩ :: (listing node).map (Entry.under [name]) ++ listingOf rest

end

/-- A child with a name, followed by all that is below it. -/
def listingOfChild (child : Text × Node) : List Entry :=
  ⟨[child.1], child.2⟩ :: child.2.listing.map (Entry.under [child.1])

theorem listing_eq_flatMap (node : Node) : node.listing = node.children.flatMap listingOfChild := by
  cases node with
  | leaf description => rfl
  | array => rfl
  | object children =>
    rw [listing, Node.children]
    induction children with
    | nil => rfl
    | cons child children ih => rw [listingOf, ih, List.flatMap_cons, listingOfChild]

theorem exists_names_of_mem_listingOfChild {child : Text × Node} {e : Entry}
    (h : e ∈ listingOfChild child) : ∃ names, e.names = child.1 :: names := by
  rcases List.mem_cons.1 h with rfl | h
  · exact ⟨[], rfl⟩
  · obtain ⟨below, -, rfl⟩ := List.mem_map.1 h
    exact ⟨below.names, rfl⟩

theorem names_ne_nil_of_mem_listing {node : Node} {e : Entry} (h : e ∈ node.listing) :
    e.names ≠ [] := by
  rw [listing_eq_flatMap] at h
  obtain ⟨child, -, h⟩ := List.mem_flatMap.1 h
  obtain ⟨names, hnames⟩ := exists_names_of_mem_listingOfChild h
  rw [hnames]
  exact List.cons_ne_nil _ _

end Node

/-! ## What is listed -/

namespace Node

/-- **A node is listed with the names that lead to it**, and nothing else is listed. -/
theorem mem_listing_iff {node : Node} (h : node.Everywhere (·.names.Nodup)) (e : Entry) :
    e ∈ node.listing ↔ e.names ≠ [] ∧ node.find? e.names = some e.node := by
  revert e
  refine Everywhere.induction_on_children h List.nodup_nil fun node hnodup ih e ↦ ?_
  rw [listing_eq_flatMap, List.mem_flatMap]
  obtain ⟨names, found⟩ := e
  constructor
  · rintro ⟨child, hchild, he⟩
    have hget := Children.get?_of_mem hnodup hchild
    rcases List.mem_cons.1 he with heq | he
    · obtain ⟨rfl, rfl⟩ := Entry.mk.inj heq
      exact ⟨List.cons_ne_nil _ _, by rw [find?_cons, hget]; rfl⟩
    · obtain ⟨below, hbelow, heq⟩ := List.mem_map.1 he
      obtain ⟨rfl, rfl⟩ := Entry.mk.inj heq
      refine ⟨List.cons_ne_nil _ _, ?_⟩
      rw [List.singleton_append, find?_cons, hget]
      exact ((ih child hchild below).1 hbelow).2
  · rintro ⟨hne, hfind⟩
    cases names with
    | nil => exact absurd rfl hne
    | cons name names =>
      rw [find?_cons] at hfind
      obtain ⟨child, hget, hfind⟩ := Option.bind_eq_some_iff.1 hfind
      have hchild := Children.mem_of_get? hget
      refine ⟨(name, child), hchild, ?_⟩
      by_cases hnames : names = []
      · subst hnames
        obtain rfl := Option.some.inj hfind
        exact List.mem_cons_self
      · refine List.mem_cons_of_mem _ (List.mem_map.2 ⟨⟨names, found⟩, ?_, rfl⟩)
        exact (ih _ hchild _).2 ⟨hnames, hfind⟩

/-- **No names are listed twice.** -/
theorem nodup_listing {node : Node} (h : node.Everywhere (·.names.Nodup)) :
    (node.listing.map Entry.names).Nodup := by
  refine Everywhere.induction_on_children h List.nodup_nil fun node hnodup ih ↦ ?_
  rw [listing_eq_flatMap, List.map_flatMap, List.nodup_flatMap]
  constructor
  · intro child hchild
    have hbelow : (child.2.listing.map (Entry.under [child.1])).map Entry.names
        = (child.2.listing.map Entry.names).map (child.1 :: ·) := by
      rw [List.map_map, List.map_map]
      rfl
    rw [listingOfChild, List.map_cons, hbelow, List.nodup_cons]
    refine ⟨?_, (ih child hchild).map List.cons_injective⟩
    intro hmem
    obtain ⟨names, hnames, heq⟩ := List.mem_map.1 hmem
    obtain ⟨e, he, rfl⟩ := List.mem_map.1 hnames
    exact names_ne_nil_of_mem_listing he (List.cons.inj heq).2
  · -- entries of different children start with different names
    refine (List.pairwise_map.1 hnodup).imp ?_
    intro a b hne
    refine List.disjoint_left.2 fun names ha hb ↦ ?_
    obtain ⟨e, he, rfl⟩ := List.mem_map.1 ha
    obtain ⟨d, hd, heq⟩ := List.mem_map.1 hb
    obtain ⟨us, hus⟩ := exists_names_of_mem_listingOfChild he
    obtain ⟨vs, hvs⟩ := exists_names_of_mem_listingOfChild hd
    rw [hus, hvs] at heq
    exact hne (List.cons.inj heq).1.symm

/-- **Each node is followed by all that is below it.** -/
theorem exists_listing_eq_append {node : Node} (h : node.Everywhere (·.names.Nodup)) (e : Entry)
    (he : e ∈ node.listing) : ∃ before after, node.listing
      = before ++ e :: (e.node.listing.map (Entry.under e.names) ++ after) := by
  revert e
  refine Everywhere.induction_on_children h List.nodup_nil fun node _ ih e he ↦ ?_
  rw [listing_eq_flatMap] at he ⊢
  obtain ⟨child, hchild, he⟩ := List.mem_flatMap.1 he
  obtain ⟨earlier, later, hchildren⟩ := List.append_of_mem hchild
  rw [hchildren, List.flatMap_append, List.flatMap_cons]
  rcases List.mem_cons.1 he with rfl | he
  · exact ⟨_, _, rfl⟩
  · obtain ⟨d, hd, rfl⟩ := List.mem_map.1 he
    obtain ⟨before, after, hlisting⟩ := ih child hchild d hd
    refine ⟨earlier.flatMap listingOfChild ++ ⟨[child.1], child.2⟩
      :: before.map (Entry.under [child.1]),
      after.map (Entry.under [child.1]) ++ later.flatMap listingOfChild, ?_⟩
    have hbelow : (d.node.listing.map (Entry.under d.names)).map (Entry.under [child.1])
        = (d.under [child.1]).node.listing.map (Entry.under (d.under [child.1]).names) := by
      rw [List.map_map]
      exact List.map_congr_left fun below _ ↦ Entry.under_under [child.1] d.names below
    rw [listingOfChild, hlisting, List.map_append, List.map_cons, List.map_append, hbelow]
    simp only [List.append_assoc, List.cons_append]

/-- What is below a node is listed nowhere but right after it. -/
theorem exists_listing_eq {node : Node} (h : node.Everywhere (·.names.Nodup)) {e : Entry}
    (he : e ∈ node.listing) : ∃ before after,
      node.listing = before ++ e :: (e.node.listing.map (Entry.under e.names) ++ after) ∧
        ∀ d ∈ before ++ after, ¬ e.names <+: d.names := by
  obtain ⟨before, after, hlisting⟩ := exists_listing_eq_append h e he
  refine ⟨before, after, hlisting, ?_⟩
  rintro d hd ⟨names, hnames⟩
  have hmem : d ∈ node.listing := by
    rw [hlisting]
    rcases List.mem_append.1 hd with hd | hd
    · exact List.mem_append_left _ hd
    · exact List.mem_append_right _ (List.mem_cons_of_mem _ (List.mem_append_right _ hd))
  have hfind := ((mem_listing_iff h d).1 hmem).2
  have hnode := ((mem_listing_iff h e).1 he).2
  rw [← hnames, find?_append, hnode, Option.bind_some] at hfind
  -- so it is listed a second time, as the node itself or below it
  have hagain : d ∈ e :: e.node.listing.map (Entry.under e.names) := by
    by_cases hnil : names = []
    · rw [hnil] at hfind hnames
      rw [List.append_nil] at hnames
      exact List.mem_cons.2 (.inl (Entry.ext hnames.symm (Option.some.inj hfind).symm))
    · have hbelow : (⟨names, d.node⟩ : Entry) ∈ e.node.listing :=
        (mem_listing_iff (h.find? hnode) _).2 ⟨hnil, hfind⟩
      refine List.mem_cons_of_mem _ (List.mem_map.2 ⟨_, hbelow, ?_⟩)
      rw [Entry.under, hnames]
  have hnodup := (nodup_listing h).of_map
  rw [hlisting, ← List.cons_append] at hnodup
  obtain ⟨-, hrest, hbefore⟩ := List.nodup_append.1 hnodup
  rcases List.mem_append.1 hd with hd | hd
  · exact hbefore d hd d (List.mem_append_left _ hagain) rfl
  · exact (List.nodup_append.1 hrest).2.2 d hagain d hd rfl

theorem under_mem_listing {node : Node} (h : node.Everywhere (·.names.Nodup)) {e d : Entry}
    (he : e ∈ node.listing) (hd : d ∈ e.node.listing) : d.under e.names ∈ node.listing := by
  obtain ⟨before, after, hlisting⟩ := exists_listing_eq_append h e he
  rw [hlisting]
  exact List.mem_append_right _ (List.mem_cons_of_mem _ (List.mem_append_left _
    (List.mem_map_of_mem hd)))

theorem filter_listing {node : Node} (h : node.Everywhere (·.names.Nodup)) {e : Entry}
    (he : e ∈ node.listing) {p : Entry → Bool}
    (hp : ∀ d ∈ node.listing, p d = true → e.names <+: d.names) (hself : p e = false) :
    node.listing.filter p = (e.node.listing.map (Entry.under e.names)).filter p := by
  obtain ⟨before, after, hlisting, houtside⟩ := exists_listing_eq h he
  have hbefore : before.filter p = [] := by
    refine List.filter_eq_nil_iff.2 fun d hd hpd ↦ ?_
    exact houtside d (List.mem_append_left _ hd) (hp d (by simp [hlisting, hd]) hpd)
  have hafter : after.filter p = [] := by
    refine List.filter_eq_nil_iff.2 fun d hd hpd ↦ ?_
    exact houtside d (List.mem_append_right _ hd) (hp d (by simp [hlisting, hd]) hpd)
  rw [hlisting, List.filter_append, List.filter_cons_of_neg (by simp [hself]), List.filter_append,
    hbefore, hafter, List.nil_append, List.append_nil]

/-- Of all nodes below a node, the children are those with one name. -/
theorem filter_listing_children (node : Node) : node.listing.filter (·.names.length = 1)
    = node.children.map fun child ↦ ⟨[child.1], child.2⟩ := by
  rw [listing_eq_flatMap, List.filter_flatMap, List.map_eq_flatMap]
  refine List.flatMap_congr fun child _ ↦ ?_
  have hdeeper :
      (child.2.listing.map (Entry.under [child.1])).filter (·.names.length = 1) = [] := by
    refine List.filter_eq_nil_iff.2 fun e he ↦ ?_
    obtain ⟨d, hd, rfl⟩ := List.mem_map.1 he
    simpa [Entry.under] using names_ne_nil_of_mem_listing hd
  rw [listingOfChild, List.filter_cons_of_pos (by simp), hdeeper]

theorem forall_mem_names_of_mem_listing {P : Text → Prop} {node : Node} (h : node.EveryName P)
    (e : Entry) (he : e ∈ node.listing) : ∀ name ∈ e.names, P name := by
  revert e
  refine Everywhere.induction_on_children h (by simp [Children.names]) fun node hnames ih e he ↦ ?_
  rw [listing_eq_flatMap] at he
  obtain ⟨child, hchild, he⟩ := List.mem_flatMap.1 he
  have hname : P child.1 := hnames child.1 (List.mem_map_of_mem hchild)
  rcases List.mem_cons.1 he with rfl | he
  · simpa using hname
  · obtain ⟨d, hd, rfl⟩ := List.mem_map.1 he
    exact List.forall_mem_cons.2 ⟨hname, ih child hchild d hd⟩

end Node

/-! ## The listing as candidates -/

theorem Text.below_intercalate {path : List Text} (hpath : ∀ name ∈ path, name ≠ []) (name : Text) :
    Text.below (['.'].intercalate path) name = ['.'].intercalate (path ++ [name]) := by
  cases path with
  | nil => simp [Text.below]
  | cons first path =>
    have hne : ['.'].intercalate (first :: path) ≠ [] := by
      obtain ⟨hfirst, -⟩ := List.forall_mem_cons.1 hpath
      cases path <;> simp [hfirst]
    rw [Text.intercalate_append (List.cons_ne_nil _ _) (List.cons_ne_nil _ _), Text.below,
      if_neg (by simpa using hne), List.intercalate_singleton]

/-- The candidate for an entry. -/
def Entry.candidate (e : Entry) : Candidate where
  label := e.names.getLastD []
  kind := .variable
  insertion := ['.'].intercalate e.names
  detail := e.node.detail

namespace Entry

theorem insertion_candidate (e : Entry) : e.candidate.insertion = ['.'].intercalate e.names := rfl

theorem getLast?_names (e : Entry) (h : e.names ≠ []) :
    e.names.getLast? = some e.candidate.label := by
  rw [candidate, List.getLastD_eq_getLast?, List.getLast?_eq_some_getLast h, Option.getD_some]

end Entry

namespace Node

theorem flatten_eq_flatMap (path : Text) (node : Node) :
    node.flatten path = node.children.flatMap fun child ↦
      child.2.candidate path child.1 :: child.2.flatten (Text.below path child.1) := by
  cases node with
  | leaf description => rfl
  | array => rfl
  | object children =>
    rw [flatten, Node.children]
    induction children with
    | nil => rfl
    | cons child children ih => rw [flattenChildren, ih, List.flatMap_cons]

/-- **Flattening is listing with the names joined by dots.** -/
theorem flatten_eq_map_listing {node : Node} (h : node.EveryName (· ≠ [])) (path : List Text)
    (hpath : ∀ name ∈ path, name ≠ []) :
    node.flatten (['.'].intercalate path) = node.listing.map fun e ↦ (e.under path).candidate := by
  revert path
  refine Everywhere.induction_on_children h (by simp [Children.names])
    fun node hnames ih path hpath ↦ ?_
  rw [flatten_eq_flatMap, listing_eq_flatMap, List.map_flatMap]
  refine List.flatMap_congr fun child hchild ↦ ?_
  have hname : child.1 ≠ [] := hnames child.1 (List.mem_map_of_mem hchild)
  have hpath' : ∀ name ∈ path ++ [child.1], name ≠ [] := by
    intro name hmem
    rcases List.mem_append.1 hmem with hmem | hmem
    · exact hpath name hmem
    · rwa [List.mem_singleton.1 hmem]
  rw [Text.below_intercalate hpath, ih child hchild _ hpath', listingOfChild, List.map_cons,
    List.map_map]
  refine congrArg₂ List.cons ?_ (List.map_congr_left fun e _ ↦ ?_)
  · rw [Node.candidate, Text.below_intercalate hpath]
    simp [Entry.candidate, Entry.under]
  · rw [Function.comp_apply, Entry.under_under]

end Node

/-! ## Trees that are built -/

namespace VariableTree

variable {tree : VariableTree}

theorem Built.nodup (h : tree.Built) : tree.root.Everywhere (·.names.Nodup) :=
  h.keyed.mono fun _ hkeyed ↦ hkeyed.nodup

theorem Built.isName (h : tree.Built) : tree.root.EveryName IsName :=
  h.keyed.mono fun _ hkeyed ↦ hkeyed.isName

theorem flatten_eq_map_listing (h : tree.root.EveryName (· ≠ [])) :
    tree.flatten = tree.root.listing.map Entry.candidate :=
  Node.flatten_eq_map_listing h [] (by simp)

/-- The names of an entry are those of the path that its candidate inserts. -/
theorem Built.pathNames_insertion (h : tree.Built) {e : Entry} (he : e ∈ tree.root.listing) :
    pathNames e.candidate.insertion = e.names :=
  List.splitOn_intercalate '.'
    (fun name hname ↦ (Node.forall_mem_names_of_mem_listing h.isName e he name hname).2)
    (Node.names_ne_nil_of_mem_listing he)

theorem Built.flatten_eq (h : tree.Built) :
    tree.flatten = tree.root.listing.map Entry.candidate :=
  flatten_eq_map_listing (h.keyed.mono fun _ hkeyed name hname ↦ (hkeyed.isName name hname).1)

theorem Built.nodup_insertion (h : tree.Built) : (tree.flatten.map (·.insertion)).Nodup := by
  rw [h.flatten_eq, List.map_map]
  have hnames := Node.nodup_listing h.nodup
  refine List.Nodup.map_on ?_ hnames.of_map
  intro e he d hd heq
  refine List.inj_on_of_nodup_map hnames he hd ?_
  rw [← h.pathNames_insertion he, ← h.pathNames_insertion hd]
  exact congrArg pathNames heq

/-- What a path leads to is listed. -/
theorem Built.mem_listing_of_get? (h : tree.Built) {q : Text} {node : Node}
    (hq : tree.get? q = some node) : (⟨pathNames q, node⟩ : Entry) ∈ tree.root.listing :=
  (Node.mem_listing_iff h.nodup _).2 ⟨pathNames_ne_nil q, hq⟩

theorem Built.mem_insertion_iff (h : tree.Built) {q : Text} :
    q ∈ tree.flatten.map (·.insertion) ↔ (tree.get? q).isSome := by
  rw [h.flatten_eq, List.map_map, List.mem_map]
  constructor
  · rintro ⟨e, he, rfl⟩
    have hfind := ((Node.mem_listing_iff h.nodup e).1 he).2
    rw [get?, Function.comp_apply, h.pathNames_insertion he, hfind]
    rfl
  · intro hq
    obtain ⟨node, hq⟩ := Option.isSome_iff_exists.1 hq
    exact ⟨_, h.mem_listing_of_get? hq, List.intercalate_splitOn '.'⟩

/-- Below a path are the nodes with a longer path that starts with it. -/
theorem Built.isPrefixOf_insertion_iff (h : tree.Built) {q : Text} {e : Entry}
    (he : e ∈ tree.root.listing) :
    (q ++ ['.']).isPrefixOf e.candidate.insertion = true ↔
      ∃ names, names ≠ [] ∧ e.names = pathNames q ++ names := by
  rw [List.isPrefixOf_iff_prefix]
  constructor
  · rintro ⟨rest, hrest⟩
    refine ⟨pathNames rest, pathNames_ne_nil rest, ?_⟩
    rw [← h.pathNames_insertion he, ← hrest, List.append_assoc, List.singleton_append,
      pathNames_append]
  · rintro ⟨names, hnames, heq⟩
    refine ⟨['.'].intercalate names, ?_⟩
    rw [Entry.insertion_candidate, heq, intercalate_pathNames_append q hnames, List.append_assoc,
      List.singleton_append]

/-- One level below a path are the nodes whose path has one more name. -/
theorem Built.insertion_eq_iff (h : tree.Built) {q : Text} {e : Entry}
    (he : e ∈ tree.root.listing) :
    e.candidate.insertion = q ++ '.' :: e.candidate.label ↔
      ∃ name, e.names = pathNames q ++ [name] := by
  have hlast := Entry.getLast?_names e (Node.names_ne_nil_of_mem_listing he)
  constructor
  · intro heq
    have hlabel : '.' ∉ e.candidate.label :=
      (Node.forall_mem_names_of_mem_listing h.isName e he _ (List.mem_of_getLast? hlast)).2
    refine ⟨e.candidate.label, ?_⟩
    rw [← h.pathNames_insertion he, heq, pathNames_append]
    exact congrArg _ (List.splitOn_eq_singleton hlabel)
  · rintro ⟨name, hname⟩
    obtain rfl : name = e.candidate.label := by
      rw [hname, List.getLast?_concat] at hlast
      exact Option.some.inj hlast
    rw [Entry.insertion_candidate, hname, intercalate_pathNames_append q (List.cons_ne_nil _ _),
      List.intercalate_singleton]

/-- The candidates below a path. -/
theorem Built.filter_flatten_below (h : tree.Built) {q : Text} {node : Node}
    (hq : tree.get? q = some node) :
    tree.flatten.filter (fun c ↦ (q ++ ['.']).isPrefixOf c.insertion)
      = (node.listing.map (Entry.under (pathNames q))).map Entry.candidate := by
  have hmem := h.mem_listing_of_get? hq
  rw [h.flatten_eq, List.filter_map, Node.filter_listing h.nodup hmem]
  · refine congrArg _ (List.filter_eq_self.2 fun e he ↦ ?_)
    obtain ⟨d, hd, rfl⟩ := List.mem_map.1 he
    exact (h.isPrefixOf_insertion_iff (Node.under_mem_listing h.nodup hmem hd)).2
      ⟨d.names, Node.names_ne_nil_of_mem_listing hd, rfl⟩
  · intro d hd hpd
    obtain ⟨names, -, heq⟩ := (h.isPrefixOf_insertion_iff hd).1 hpd
    exact ⟨names, heq.symm⟩
  · refine Bool.eq_false_iff.2 fun hself ↦ ?_
    obtain ⟨names, hnames, heq⟩ := (h.isPrefixOf_insertion_iff hmem).1 hself
    exact hnames (List.self_eq_append_right.1 heq)

/-- The candidates one level below a path. -/
theorem Built.filter_flatten_children (h : tree.Built) {q : Text} {node : Node}
    (hq : tree.get? q = some node) :
    tree.flatten.filter (fun c ↦ c.insertion = q ++ '.' :: c.label)
      = node.children.map fun child ↦ Entry.candidate ⟨pathNames q ++ [child.1], child.2⟩ := by
  have hmem := h.mem_listing_of_get? hq
  rw [h.flatten_eq, List.filter_map, Node.filter_listing h.nodup hmem]
  · have hone : (node.listing.map (Entry.under (pathNames q))).filter
        ((fun c ↦ decide (c.insertion = q ++ '.' :: c.label)) ∘ Entry.candidate)
          = (node.listing.filter (·.names.length = 1)).map (Entry.under (pathNames q)) := by
      rw [List.filter_map]
      refine congrArg _ (List.filter_congr fun d hd ↦ decide_eq_decide.2 ?_)
      rw [h.insertion_eq_iff (Node.under_mem_listing h.nodup hmem hd), List.length_eq_one_iff]
      simp only [Entry.under, List.append_cancel_left_eq]
    rw [hone, Node.filter_listing_children, List.map_map, List.map_map]
    rfl
  · intro d hd hpd
    obtain ⟨name, heq⟩ := (h.insertion_eq_iff hd).1 (of_decide_eq_true hpd)
    exact ⟨[name], heq.symm⟩
  · refine Bool.eq_false_iff.2 fun hself ↦ ?_
    obtain ⟨name, heq⟩ := (h.insertion_eq_iff hmem).1 (of_decide_eq_true hself)
    exact List.cons_ne_nil _ _ (List.self_eq_append_right.1 heq)

/-- **Following a path, listing an object and flattening agree.**  A path leads somewhere if and
only if exactly one candidate inserts it; that candidate is named and described after what is there,
all candidates below it come right after it, and those one level below are what the path completes
to. -/
theorem Built.flatten_get?_properties (h : tree.Built) :
    (tree.flatten.map (·.insertion)).Nodup ∧ ∀ q : Text,
      ((tree.get? q).isSome ↔ (tree.flatten.map (·.insertion)).count q = 1) ∧
      ∀ node, tree.get? q = some node →
        (∃ before c after, tree.flatten = before
            ++ c :: tree.flatten.filter (fun d ↦ (q ++ ['.']).isPrefixOf d.insertion) ++ after ∧
          c.insertion = q ∧ (pathNames q).getLast? = some c.label ∧
          c.detail = match node with
            | .object children => "Object with " ++ toString children.length ++ " properties"
            | .array => "Array"
            | .leaf description => description) ∧
        (tree.flatten.filter fun d ↦ d.insertion = q ++ '.' :: d.label).map
            (fun d ↦ (d.label, d.detail))
          = (tree.properties q).map fun d ↦ (d.label, d.detail) := by
  refine ⟨h.nodup_insertion, fun q ↦ ⟨?_, fun node hq ↦ ⟨?_, ?_⟩⟩⟩
  · rw [← h.mem_insertion_iff, h.nodup_insertion.count]
    by_cases hmem : q ∈ tree.flatten.map (·.insertion)
    · simp only [hmem, if_true]
    · simp [hmem]
  · have hmem := h.mem_listing_of_get? hq
    obtain ⟨before, after, hlisting⟩ := Node.exists_listing_eq_append h.nodup _ hmem
    refine ⟨before.map Entry.candidate, Entry.candidate ⟨pathNames q, node⟩,
      after.map Entry.candidate, ?_, List.intercalate_splitOn '.',
      Entry.getLast?_names ⟨_, node⟩ (pathNames_ne_nil q), ?_⟩
    · rw [h.filter_flatten_below hq, h.flatten_eq, hlisting]
      simp only [List.map_append, List.map_cons, List.append_assoc, List.cons_append]
    · cases node <;> rfl
  · rw [h.filter_flatten_children hq, properties, hq, Option.map_some, Option.getD_some,
      List.map_map, List.map_map]
    refine List.map_congr_left fun child _ ↦ ?_
    simp [Entry.candidate]

/-- With a variable laid over the built-in ones, inside an object that is there already. -/
theorem flatten_get?_properties_rollups :
    let added : VariableTree := ⟨[("rollups".toList, .object [("eth".toList, .leaf "ETH")])]⟩
    let tree := builtin.merge added
    tree.Built ∧ (tree.get? "rollups".toList).isSome ∧
      (tree.flatten.map (·.insertion)).count "rollups".toList = 1 ∧
      (tree.properties "rollups".toList).map (·.label) = ["btc".toList, "eth".toList] ∧
      (tree.flatten.filter fun d ↦ d.insertion = "rollups".toList ++ '.' :: d.label).map
          (fun d ↦ (d.label, d.detail))
        = (tree.properties "rollups".toList).map fun d ↦ (d.label, d.detail) := by
  intro added tree
  have hadded : empty.insert "rollups.eth".toList "ETH" = .ok added := rfl
  have h : tree.Built := .merge .builtin (.insert .empty hadded)
  have hq := h.flatten_get?_properties.2 "rollups".toList
  exact ⟨h, rfl, hq.1.1 rfl, rfl, (hq.2 _ rfl).2⟩

end VariableTree

end TemplateAssist
