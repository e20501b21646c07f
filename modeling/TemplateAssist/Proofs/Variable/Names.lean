import Mathlib.Data.List.Nodup
import TemplateAssist.Proofs.Text.Segments
import TemplateAssist.Variable.Value

/-!
# Names in a variable tree

Children are a plain list of named nodes, so nothing in the type keeps two of them from having the
same name, or a name from holding a dot.  That no tree is like that follows from how trees come
about: this file says it as an invariant and shows that building keeps it.

* `Children.get?_of_mem`, `Node.find?_append` — looking up a name, and following a path;
* `Node.Everywhere P` — `P` holds of the children of every object in a tree;
* `Children.Keyed` — names are not empty, have no dots in them, and are all different;
* `Children.names_alter` — what changing one child does to the names;
* `Node.Everywhere.insert`, `Node.Everywhere.merge` — the two ways of building keep the invariant;
* `VariableTree.Built.keyed` — so it holds in every tree that is built.
-/

set_option autoImplicit false

namespace TemplateAssist

/-! ## Looking up names -/

namespace Children

theorem mem_of_get? {children : Children} {name : Text} {node : Node}
    (h : children.get? name = some node) : (name, node) ∈ children := by
  obtain ⟨before, after, heq, -⟩ := List.lookup_eq_some_iff.1 h
  rw [heq]
  exact List.mem_append_right _ List.mem_cons_self

/-- With no name twice, every child is the one found by its name. -/
theorem get?_of_mem {children : Children} {name : Text} {node : Node}
    (hnodup : children.names.Nodup) (h : (name, node) ∈ children) :
    children.get? name = some node := by
  obtain ⟨before, after, rfl⟩ := List.append_of_mem h
  refine List.lookup_eq_some_iff.2 ⟨before, after, rfl, ?_⟩
  intro child hchild
  rw [names, List.map_append, List.map_cons] at hnodup
  have hne := (List.nodup_append.1 hnodup).2.2 child.1 (List.mem_map_of_mem hchild) name
    List.mem_cons_self
  simpa using hne.symm

end Children

namespace Node

theorem find?_cons (name : Text) (names : List Text) (node : Node) :
    node.find? (name :: names) = (node.children.get? name).bind (find? names) := by
  cases node <;> rfl

theorem find?_append (us vs : List Text) (node : Node) :
    node.find? (us ++ vs) = (node.find? us).bind (find? vs) := by
  induction us generalizing node with
  | nil => rfl
  | cons u us ih =>
    rw [List.cons_append, find?_cons, find?_cons, Option.bind_assoc]
    exact congrArg _ (funext ih)

end Node

/-! ## Properties of all levels -/

/-- `P` holds of the children of every object in the tree. -/
inductive Node.Everywhere (P : Children → Prop) : Node → Prop
  | leaf (description : String) : Everywhere P (.leaf description)
  | array : Everywhere P .array
  | object {children : Children} (here : P children)
      (below : ∀ child ∈ children, Everywhere P child.2) : Everywhere P (.object children)

/-- `P` holds of every name in the tree. -/
def Node.EveryName (P : Text → Prop) (node : Node) : Prop :=
  node.Everywhere fun children ↦ ∀ name ∈ children.names, P name

namespace Node

variable {P : Children → Prop}

theorem everywhere_object_iff {children : Children} :
    (object children).Everywhere P ↔ P children ∧ ∀ child ∈ children, child.2.Everywhere P := by
  constructor
  · rintro (_ | _ | ⟨here, below⟩)
    exact ⟨here, below⟩
  · rintro ⟨here, below⟩
    exact .object here below

theorem Everywhere.mono {Q : Children → Prop} {node : Node} (h : node.Everywhere P)
    (hPQ : ∀ children, P children → Q children) : node.Everywhere Q := by
  induction h with
  | leaf description => exact .leaf description
  | array => exact .array
  | object here _ ih => exact .object (hPQ _ here) ih

/-- What holds of the children of every object holds of those of every node, if it holds of
none. -/
theorem Everywhere.children {node : Node} (h : node.Everywhere P) (hnil : P []) :
    P node.children := by
  cases h with
  | leaf description => exact hnil
  | array => exact hnil
  | object here _ => exact here

theorem Everywhere.of_mem_children {node : Node} {child : Text × Node} (h : node.Everywhere P)
    (hchild : child ∈ node.children) : child.2.Everywhere P := by
  cases h with
  | leaf description => cases hchild
  | array => cases hchild
  | object _ below => exact below child hchild

/-- Induction from the children of a node to the node, whether or not it is an object. -/
@[elab_as_elim]
theorem Everywhere.induction_on_children {motive : Node → Prop} {node : Node}
    (h : node.Everywhere P) (hnil : P [])
    (step : ∀ node : Node, P node.children → (∀ child ∈ node.children, motive child.2) →
      motive node) : motive node := by
  induction h with
  | leaf description => exact step (.leaf description) hnil fun _ hchild ↦ by cases hchild
  | array => exact step .array hnil fun _ hchild ↦ by cases hchild
  | object here _ ih => exact step (.object _) here ih

/-- What a path leads to is part of the tree. -/
theorem Everywhere.find? {names : List Text} {node found : Node} (h : node.Everywhere P)
    (hfound : node.find? names = some found) : found.Everywhere P := by
  induction names generalizing node with
  | nil =>
    obtain rfl := Option.some.inj hfound
    exact h
  | cons name path ih =>
    rw [find?_cons] at hfound
    obtain ⟨child, hchild, hfound⟩ := Option.bind_eq_some_iff.1 hfound
    exact ih (h.of_mem_children (Children.mem_of_get? hchild)) hfound

end Node

/-! ## Names of a path -/

theorem pathNames_ne_nil (path : Text) : pathNames path ≠ [] := List.splitOn_ne_nil '.' path

theorem pathNames_append (u v : Text) : pathNames (u ++ '.' :: v) = pathNames u ++ pathNames v :=
  List.splitOn_append_cons_self u v

theorem intercalate_pathNames_append (path : Text) {names : List Text} (hne : names ≠ []) :
    ['.'].intercalate (pathNames path ++ names) = path ++ '.' :: ['.'].intercalate names := by
  rw [Text.intercalate_append (pathNames_ne_nil path) hne, pathNames, List.intercalate_splitOn]

/-! ## Names of children -/

/-- A name of a variable, as it can stand in a path. -/
def IsName (name : Text) : Prop := name ≠ [] ∧ '.' ∉ name

instance (name : Text) : Decidable (IsName name) :=
  inferInstanceAs (Decidable (name ≠ [] ∧ '.' ∉ name))

namespace Children

/-- Names are not empty, have no dots in them, and are all different. -/
structure Keyed (children : Children) : Prop where
  nodup : children.names.Nodup
  isName : ∀ name ∈ children.names, IsName name

theorem keyed_iff {children : Children} :
    Keyed children ↔ children.names.Nodup ∧ ∀ name ∈ children.names, IsName name :=
  ⟨fun h ↦ ⟨h.nodup, h.isName⟩, fun h ↦ ⟨h.1, h.2⟩⟩

instance (children : Children) : Decidable (Keyed children) := decidable_of_iff' _ keyed_iff

theorem keyed_nil : Keyed [] := ⟨List.nodup_nil, by simp [names]⟩

@[simp]
theorem names_cons (child : Text × Node) (children : Children) :
    names (child :: children) = child.1 :: names children := rfl

/-- Changing one child keeps the names, or adds one at the end. -/
theorem names_alter (name : Text) (f : Option Node → Node) (children : Children) :
    names (alter name f children)
      = if name ∈ names children then names children else names children ++ [name] := by
  induction children with
  | nil => rfl
  | cons child children ih =>
    rw [alter]
    by_cases hname : child.1 = name
    · simp [hname]
    · rw [if_neg hname, names_cons, ih, names_cons]
      by_cases hmem : name ∈ names children
      · simp [hmem]
      · simp [hmem, Ne.symm hname]

/-- A property of nodes that the change keeps. -/
theorem forall_mem_alter {Q : Node → Prop} {name : Text} {f : Option Node → Node}
    {children : Children} (h : ∀ child ∈ children, Q child.2)
    (hf : ∀ below : Option Node, (∀ node ∈ below, Q node) → Q (f below)) :
    ∀ child ∈ alter name f children, Q child.2 := by
  induction children with
  | nil =>
    intro child hchild
    rw [List.mem_singleton.1 hchild]
    exact hf none (by simp)
  | cons first children ih =>
    obtain ⟨hfirst, hrest⟩ := List.forall_mem_cons.1 h
    rw [alter]
    split
    · refine List.forall_mem_cons.2 ⟨hf (some first.2) ?_, hrest⟩
      intro node hnode
      obtain rfl := Option.some.inj hnode
      exact hfirst
    · exact List.forall_mem_cons.2 ⟨hfirst, ih hrest⟩

theorem nodup_alter {children : Children} (h : children.names.Nodup) (name : Text)
    (f : Option Node → Node) : (alter name f children).names.Nodup := by
  rw [names_alter]
  split
  · exact h
  · next hmem =>
    refine List.nodup_append.2 ⟨h, List.nodup_singleton name, ?_⟩
    intro other hother last hlast heq
    rw [heq, List.mem_singleton.1 hlast] at hother
    exact hmem hother

theorem Keyed.alter {children : Children} {name : Text} (h : Keyed children) (hname : IsName name)
    (f : Option Node → Node) : Keyed (alter name f children) := by
  refine ⟨nodup_alter h.nodup name f, ?_⟩
  rw [names_alter]
  split
  · exact h.isName
  · intro other hother
    rcases List.mem_append.1 hother with hother | hother
    · exact h.isName other hother
    · rwa [List.mem_singleton.1 hother]

end Children

/-! ## Building -/

namespace Node

open Children

/-- Putting a leaf into a tree keeps what changing a child on the way keeps. -/
theorem Everywhere.insert {P : Children → Prop} {path : List Text} (description : String)
    {node : Option Node} (hnil : P [])
    (halter : ∀ name ∈ path, ∀ f children, P children → P (alter name f children))
    (h : ∀ n ∈ node, n.Everywhere P) : (Node.insert description path node).Everywhere P := by
  induction path generalizing node with
  | nil => exact .leaf description
  | cons name path ih =>
    obtain ⟨hname, hpath⟩ := List.forall_mem_cons.1 halter
    have hchildren : P ((node.map Node.children).getD []) ∧
        ∀ child ∈ (node.map Node.children).getD [], child.2.Everywhere P := by
      cases node with
      | none => exact ⟨hnil, by simp⟩
      | some node =>
        exact ⟨(h node rfl).children hnil, fun _ hchild ↦ (h node rfl).of_mem_children hchild⟩
    exact .object (hname _ _ hchildren.1)
      (forall_mem_alter hchildren.2 fun below hbelow ↦ ih hpath hbelow)

mutual

/-- Laying a node over another keeps the names well-formed. -/
theorem Everywhere.merge {lower : Node} (hlower : lower.Everywhere Keyed) :
    ∀ {upper : Node}, upper.Everywhere Keyed → (lower.merge upper).Everywhere Keyed
  | .leaf description, _ => .leaf description
  | .array, _ => .array
  | .object upper, hupper => by
    cases hlower with
    | leaf description => exact hupper
    | array => exact hupper
    | object here below =>
      obtain ⟨hkeyed, hbelow⟩ := everywhere_object_iff.1 hupper
      obtain ⟨hhere, hbelow⟩ := mergeChildren_keyed here below hkeyed.isName hbelow
      exact .object hhere hbelow

theorem mergeChildren_keyed {lower : Children} (hkeyed : Keyed lower)
    (hbelow : ∀ child ∈ lower, child.2.Everywhere Keyed) :
    ∀ {upper : Children}, (∀ name ∈ upper.names, IsName name) →
      (∀ child ∈ upper, child.2.Everywhere Keyed) →
        Keyed (mergeChildren lower upper) ∧
          ∀ child ∈ mergeChildren lower upper, child.2.Everywhere Keyed
  | [], _, _ => ⟨hkeyed, hbelow⟩
  | (name, node) :: upper, hnames, hupper => by
    obtain ⟨hname, hnames⟩ := List.forall_mem_cons.1 hnames
    obtain ⟨hnode, hupper⟩ := List.forall_mem_cons.1 hupper
    refine mergeChildren_keyed (hkeyed.alter hname _) (forall_mem_alter hbelow ?_) hnames hupper
    intro below hbelow
    cases below with
    | none => exact hnode
    | some below => exact Everywhere.merge (hbelow below rfl) hnode

end

end Node

/-- The trees that are built: from no variables or the built-in ones, by adding variables at
accepted paths and by laying trees over each other. -/
inductive VariableTree.Built : VariableTree → Prop
  | empty : Built empty
  | builtin : Built builtin
  | insert {tree tree' : VariableTree} {path : Text} {description : String} (h : Built tree)
      (hinsert : tree.insert path description = .ok tree') : Built tree'
  | merge {lower upper : VariableTree} (hlower : Built lower) (hupper : Built upper) :
      Built (lower.merge upper)

namespace VariableTree

/-- The children of the object at a path; none if there is no object. -/
def childrenAt (tree : VariableTree) (path : Text) : Children :=
  ((tree.get? path).map Node.children).getD []

/-- A path is accepted if all its names are names, and then the leaf is put where it leads to. -/
theorem insert_eq_ok {tree tree' : VariableTree} {path : Text} {description : String}
    (h : tree.insert path description = .ok tree') :
    (∀ name ∈ pathNames path.trim, IsName name) ∧
      tree'.root = Node.insert description (pathNames path.trim) (some tree.root) := by
  rw [insert] at h
  split at h
  · rename_i hnames
    refine ⟨fun name hname ↦ ⟨?_, Text.not_mem_of_mem_splitOn hname⟩, ?_⟩
    · simpa using List.all_eq_true.1 hnames name hname
    · obtain rfl := Except.ok.inj h
      -- a path has at least one name, so what is put there is an object again
      cases hpath : pathNames path.trim with
      | nil => exact absurd hpath (pathNames_ne_nil _)
      | cons name names => rfl
  · cases h

theorem builtin_keyed : builtin.root.Everywhere Children.Keyed := by
  simp only [builtin, root, Node.everywhere_object_iff, List.forall_mem_cons, List.not_mem_nil,
    Node.Everywhere.leaf, IsEmpty.forall_iff, implies_true, and_true]
  decide

/-- **Names are well-formed at every level of a tree that is built.** -/
theorem Built.keyed {tree : VariableTree} (h : tree.Built) :
    tree.root.Everywhere Children.Keyed := by
  induction h with
  | empty => exact .object Children.keyed_nil (by simp [VariableTree.empty])
  | builtin => exact builtin_keyed
  | insert _ hinsert ih =>
    obtain ⟨hnames, hroot⟩ := insert_eq_ok hinsert
    rw [hroot]
    refine .insert _ Children.keyed_nil
      (fun name hname f _ hkeyed ↦ hkeyed.alter (hnames name hname) f) ?_
    intro node hnode
    obtain rfl := Option.some.inj hnode
    exact ih
  | merge _ _ hlower hupper => exact hlower.merge hupper

end VariableTree

end TemplateAssist
