import Mathlib.Data.List.Perm.Subperm
import TemplateAssist.Proofs.Variable.Names

/-!
# Adding one variable

`VariableTree.insert` rebuilds every object on the way to the new leaf, makes those that are missing
and puts an object in the place of whatever else stands in the way.  This file says what that does
to all paths at once.

* `Node.find?_insert_append` — what is found on the way to the new leaf is the same insertion, one
  part of the path shorter, into what was there before;
* `Node.find?_insert_of_not_prefix` — a path that takes another turn leads to the same node;
* `Node.insert_insert` — of two insertions at one place the second counts;
* `Node.same_of_agree` — two trees are the same up to the order of names if every path leads to
  the same thing in both;
* `VariableTree.get?_insert` — all together, for paths as they are written.
-/

set_option autoImplicit false

namespace TemplateAssist

/-! ## Changing one child -/

/-- Names with one more at the end, unless it is among them already. -/
def withName (name : Text) (names : List Text) : List Text :=
  if name ∈ names then names else names ++ [name]

namespace Children

theorem get?_cons (key : Text) (node : Node) (children : Children) (name : Text) :
    get? ((key, node) :: children) name
      = if name = key then some node else children.get? name := by
  rw [get?, List.lookup_cons]
  by_cases h : name = key
  · simp [h]
  · simp [h, get?, beq_eq_false_iff_ne.2 h]

theorem get?_alter (name other : Text) (f : Option Node → Node) (children : Children) :
    (alter name f children).get? other
      = if other = name then some (f (children.get? name)) else children.get? other := by
  induction children with
  | nil => exact get?_cons name (f none) [] other
  | cons child children ih =>
    obtain ⟨key, node⟩ := child
    by_cases hkey : key = name
    · by_cases hother : other = name <;> simp [alter, get?_cons, hkey, hother]
    · rw [alter, if_neg hkey, get?_cons, get?_cons, get?_cons, ih]
      by_cases hother : other = name
      · simp [hother, Ne.symm hkey]
      · simp [hother]

theorem alter_alter (name : Text) (f g : Option Node → Node) (children : Children) :
    alter name g (alter name f children)
      = alter name (fun below ↦ g (some (f below))) children := by
  induction children with
  | nil => simp [alter]
  | cons child children ih =>
    by_cases hname : child.1 = name
    · simp [alter, hname]
    · simp [alter, hname, ih]

end Children

/-! ## What a path leads to -/

namespace Node

variable {description : String} {node : Option Node}

theorem bind_find?_cons (name : Text) (path : List Text) (node : Option Node) :
    node.bind (find? (name :: path))
      = (((node.map children).getD []).get? name).bind (find? path) := by
  cases node with
  | none => rfl
  | some node => exact find?_cons name path node

/-- Where a path starts with the same name as that of the new leaf, it goes on in the child of that
name; any other path goes where it went before. -/
theorem find?_insert_cons (name other : Text) (us vs : List Text) :
    (insert description (name :: us) node).find? (other :: vs)
      = if other = name then (insert description us (node.bind (find? [name]))).find? vs
        else node.bind (find? (other :: vs)) := by
  have hchild : node.bind (find? [name]) = ((node.map children).getD []).get? name := by
    rw [bind_find?_cons]
    exact Option.bind_fun_some _
  rw [insert, find?_cons, children, Children.get?_alter, hchild, bind_find?_cons]
  split <;> rfl

/-- **On the way to a new leaf** stands what an insertion with the rest of the path makes of what
was there. -/
theorem find?_insert_append (us vs : List Text) :
    (insert description (us ++ vs) node).find? us
      = some (insert description vs (node.bind (find? us))) := by
  induction us generalizing node with
  | nil => cases node <;> rfl
  | cons u us ih =>
    rw [List.cons_append, find?_insert_cons, if_pos rfl, ih, Option.bind_assoc]
    simp only [← find?_append, List.singleton_append]

/-- A path that takes another turn than that of the new leaf leads where it led before. -/
theorem find?_insert_of_not_prefix {us vs : List Text} (huv : ¬ us <+: vs) (hvu : ¬ vs <+: us) :
    (insert description us node).find? vs = node.bind (find? vs) := by
  induction us generalizing node vs with
  | nil => exact absurd List.nil_prefix huv
  | cons u us ih =>
    cases vs with
    | nil => exact absurd List.nil_prefix hvu
    | cons v vs =>
      rw [find?_insert_cons]
      split
      · next heq =>
        rw [heq, List.cons_prefix_cons, not_and] at huv hvu
        rw [ih (huv rfl) (hvu rfl), heq, Option.bind_assoc]
        simp only [← find?_append, List.singleton_append]
      · rfl

theorem find?_insert_self (us : List Text) :
    (insert description us node).find? us = some (leaf description) := by
  have happend : (insert description (us ++ []) node).find? us = some (leaf description) :=
    find?_insert_append us []
  rwa [List.append_nil] at happend

/-- A path that goes on after the new leaf leads nowhere. -/
theorem find?_insert_of_prefix {us vs : List Text} (huv : us <+: vs) (hne : vs ≠ us) :
    (insert description us node).find? vs = none := by
  obtain ⟨rest, rfl⟩ := huv
  rw [find?_append, find?_insert_self, Option.bind_some]
  cases rest with
  | nil => exact absurd (List.append_nil us) hne
  | cons name rest => rfl

/-- Of two insertions at one place the second counts. -/
theorem insert_insert (description' : String) (path : List Text) :
    insert description' path (some (insert description path node))
      = insert description' path node := by
  induction path generalizing node with
  | nil => rfl
  | cons name path ih =>
    rw [insert, insert, insert, Option.map_some, Option.getD_some, children,
      Children.alter_alter]
    simp only [ih]

/-! ## Trees that are the same up to the order of names -/

/-- The node without its children. -/
def bare : Node → Node
  | object _ => object []
  | node => node

/-- Every path leads to nodes that differ in their children at most. -/
def Agree (a b : Node) : Prop := ∀ path, (a.find? path).map bare = (b.find? path).map bare

theorem Agree.bare_eq {a b : Node} (h : Agree a b) : a.bare = b.bare := Option.some.inj (h [])

theorem Agree.symm {a b : Node} (h : Agree a b) : Agree b a := fun path ↦ (h path).symm

theorem Agree.of_get? {xs ys : Children} {name : Text} {a : Node}
    (h : Agree (object xs) (object ys)) (ha : xs.get? name = some a) :
    ∃ b, ys.get? name = some b ∧ Agree a b := by
  have hpath : ∀ path, (a.find? path).map bare
      = ((ys.get? name).bind (find? path)).map bare := by
    intro path
    have hname := h (name :: path)
    rwa [find?_cons, find?_cons, children, children, ha, Option.bind_some] at hname
  cases hb : ys.get? name with
  | none =>
    rw [hb] at hpath
    exact absurd (hpath []) (by simp [find?])
  | some b =>
    rw [hb] at hpath
    exact ⟨b, rfl, hpath⟩

theorem sameChildren_iff {xs ys : Children} : sameChildren xs ys = true ↔
    ∀ child ∈ xs, ∃ other, ys.get? child.1 = some other ∧ child.2.same other = true := by
  induction xs with
  | nil => simp [sameChildren]
  | cons child xs ih =>
    obtain ⟨name, node⟩ := child
    cases hget : Children.get? ys name with
    | none => simp [sameChildren, hget]
    | some other => simp [sameChildren, hget, ih]

/-- Of two objects that agree, the one without repeated names has no more children. -/
theorem Agree.length_le {xs ys : Children} (h : Agree (object xs) (object ys))
    (hxs : xs.names.Nodup) : xs.length ≤ ys.length := by
  have hsubset : xs.names ⊆ ys.names := by
    intro name hname
    obtain ⟨⟨key, a⟩, hchild, rfl⟩ := List.mem_map.1 hname
    obtain ⟨b, hb, -⟩ := h.of_get? (Children.get?_of_mem hxs hchild)
    exact List.mem_map.2 ⟨(key, b), Children.mem_of_get? hb, rfl⟩
  have hlength := (List.subperm_of_subset hxs hsubset).length_le
  rwa [Children.names, Children.names, List.length_map, List.length_map] at hlength

/-- **Trees in which every path leads to the same thing are the same** up to the order of names. -/
theorem same_of_agree {a b : Node} (ha : a.Everywhere (·.names.Nodup))
    (hb : b.Everywhere (·.names.Nodup)) (h : Agree a b) : a.same b = true := by
  have hbare := h.bare_eq
  induction ha generalizing b with
  | leaf description =>
    cases b <;> simp_all [same, bare]
  | array =>
    cases b <;> simp_all [same, bare]
  | @object xs hxs below ih =>
    obtain ⟨ys, rfl⟩ : ∃ ys, b = object ys := by
      cases b <;> simp_all [bare]
    obtain ⟨hys, hbelow⟩ := everywhere_object_iff.1 hb
    have hlength : xs.length = ys.length := Nat.le_antisymm (h.length_le hxs) (h.symm.length_le hys)
    simp only [same, hlength, beq_self_eq_true, Bool.true_and, sameChildren_iff]
    rintro ⟨name, child⟩ hchild
    obtain ⟨other, hother, hagree⟩ := h.of_get? (Children.get?_of_mem hxs hchild)
    exact ⟨other, hother,
      ih _ hchild (hbelow _ (Children.mem_of_get? hother)) hagree hagree.bare_eq⟩

theorem bare_insert_cons (name : Text) (path : List Text) :
    (insert description (name :: path) node).bare = object [] := rfl

/-- What every path leads to after an insertion, the children left out. -/
theorem map_bare_find?_insert (us vs : List Text) :
    ((insert description us node).find? vs).map bare
      = if us <+: vs then if vs = us then some (leaf description) else none
        else if vs <+: us then some (object []) else (node.bind (find? vs)).map bare := by
  by_cases huv : us <+: vs
  · by_cases hne : vs = us
    · simp [hne, find?_insert_self, bare]
    · simp [huv, hne, find?_insert_of_prefix huv hne]
  · by_cases hvu : vs <+: us
    · obtain ⟨rest, rfl⟩ := hvu
      cases rest with
      | nil => exact absurd (by simp) huv
      | cons name rest => simp [huv, find?_insert_append, bare_insert_cons]
    · simp [huv, hvu, find?_insert_of_not_prefix huv hvu]

/-- Two insertions at places of which neither is on the way to the other can be made in either
order. -/
theorem agree_insert_comm (description' : String) {us vs : List Text} (huv : ¬ us <+: vs)
    (hvu : ¬ vs <+: us) :
    Agree (insert description us (some (insert description' vs node)))
      (insert description' vs (some (insert description us node))) := by
  intro path
  simp only [map_bare_find?_insert, Option.bind_some]
  by_cases hu : us <+: path
  · have hv : ¬ vs <+: path := fun hv ↦
      (List.prefix_or_prefix_of_prefix hu hv).elim huv hvu
    have hv' : ¬ path <+: vs := fun hv' ↦ huv (hu.trans hv')
    simp [hu, hv, hv']
  · by_cases hv : vs <+: path
    · have hu' : ¬ path <+: us := fun hu' ↦ hvu (hv.trans hu')
      simp [hu, hv, hu']
    · by_cases hu' : path <+: us <;> by_cases hv' : path <+: vs <;> simp [hu, hv, hu', hv']

end Node

/-! ## Paths as they are written -/

namespace VariableTree

variable {tree tree' : VariableTree} {path : Text} {description : String}

/-- What `tree` becomes when a leaf is added where the names lead to. -/
structure Added (names : List Text) (description : String) (tree tree' : VariableTree) : Prop where
  here : ∀ q, pathNames q = names → tree'.get? q = some (.leaf description)
  below : ∀ q, names <+: pathNames q → pathNames q ≠ names → tree'.get? q = none
  /-- On the way are objects, with the names that were there before and the next one. -/
  above : ∀ q name rest, names = pathNames q ++ name :: rest → ∃ children : Children,
    tree'.get? q = some (.object children) ∧
      children.names = withName name (tree.childrenAt q).names
  elsewhere : ∀ q, ¬ names <+: pathNames q → ¬ pathNames q <+: names → tree'.get? q = tree.get? q
  top : ∀ name rest, names = name :: rest → tree'.names = withName name tree.names

theorem added_of_root_eq {names : List Text}
    (h : tree'.root = Node.insert description names (some tree.root)) :
    Added names description tree tree' where
  here q hq := by rw [get?, h, hq, Node.find?_insert_self]
  below q hprefix hne := by rw [get?, h, Node.find?_insert_of_prefix hprefix hne]
  above q name rest hnames := by
    refine ⟨_, by rw [get?, h, hnames, Node.find?_insert_append, Node.insert], ?_⟩
    rw [Children.names_alter]
    rfl
  elsewhere q hq hq' := by
    rw [get?, h, Node.find?_insert_of_not_prefix hq hq', Option.bind_some]
    rfl
  top name rest hnames := by
    have hchildren := congrArg Node.children h
    rw [hnames] at hchildren
    show Children.names tree'.root.children = _
    rw [hchildren, Node.insert, Node.children, Children.names_alter]
    rfl

/-- A path without empty names is accepted. -/
theorem exists_insert_eq_ok (tree : VariableTree) (description : String)
    (h : [] ∉ pathNames path.trim) : ∃ tree', tree.insert path description = .ok tree' ∧
      tree'.root = Node.insert description (pathNames path.trim) (some tree.root) := by
  have hnames : (pathNames path.trim).all (!·.isEmpty) = true := by
    refine List.all_eq_true.2 fun name hname ↦ ?_
    cases name with
    | nil => exact absurd hname h
    | cons c name => rfl
  have hok : tree.insert path description
      = .ok ⟨(Node.insert description (pathNames path.trim) (some tree.root)).children⟩ := by
    rw [insert, if_pos hnames]
  exact ⟨_, hok, (insert_eq_ok hok).2⟩

theorem insert_eq_error (tree : VariableTree) (description : String)
    (h : [] ∈ pathNames path.trim) : tree.insert path description = .error ⟨path⟩ := by
  rw [insert, if_neg]
  intro hnames
  exact absurd (List.all_eq_true.1 hnames [] h) (by decide)

theorem nodup_of_insert (hinsert : tree.insert path description = .ok tree')
    (h : tree.root.Everywhere (·.names.Nodup)) : tree'.root.Everywhere (·.names.Nodup) := by
  rw [(insert_eq_ok hinsert).2]
  refine .insert _ List.nodup_nil (fun name _ f _ hnodup ↦ Children.nodup_alter hnodup name f) ?_
  intro node hnode
  obtain rfl := Option.some.inj hnode
  exact h

/-- **An insertion changes one path.**  It is refused if a name is empty.  Otherwise the new leaf is
where the path leads to, with objects on the way to it, nothing below it and everything else as it
was; of two insertions at one path the second counts, and insertions at paths of which neither leads
through the other can be made in either order. -/
theorem get?_insert (tree : VariableTree) (path : Text) (description : String) :
    let names := pathNames path.trim
    ([] ∈ names → tree.insert path description = .error ⟨path⟩) ∧
    ([] ∉ names → ∃ tree', tree.insert path description = .ok tree' ∧
      Added names description tree tree' ∧
      (∀ path' description', pathNames path'.trim = names →
        tree'.insert path' description' = tree.insert path' description') ∧
      ∀ path' description' other, tree.insert path' description' = .ok other →
        ¬ names <+: pathNames path'.trim → ¬ pathNames path'.trim <+: names →
        ∃ a b, tree'.insert path' description' = .ok a ∧ other.insert path description = .ok b ∧
          a.root.Agree b.root ∧ (tree.root.Everywhere (·.names.Nodup) → a.same b = true)) := by
  intro names
  refine ⟨insert_eq_error tree description, fun hnames ↦ ?_⟩
  obtain ⟨tree', hinsert, hroot⟩ := exists_insert_eq_ok tree description hnames
  refine ⟨tree', hinsert, added_of_root_eq hroot, ?_, ?_⟩
  · intro path' description' hsame
    rw [insert, insert, hsame, hroot, Node.insert_insert]
  · intro path' description' other hother hnames' hnames''
    have hok := (insert_eq_ok hother).2
    have haccepted : [] ∉ pathNames path'.trim := fun hempty ↦ by
      rw [insert_eq_error tree description' hempty] at hother
      cases hother
    obtain ⟨a, ha, haroot⟩ := exists_insert_eq_ok tree' description' haccepted
    obtain ⟨b, hb, hbroot⟩ := exists_insert_eq_ok other description hnames
    have hagree : a.root.Agree b.root := by
      rw [haroot, hbroot, hroot, hok]
      exact Node.agree_insert_comm description hnames'' hnames'
    refine ⟨a, b, ha, hb, hagree, fun hnodup ↦ Node.same_of_agree ?_ ?_ hagree⟩
    · exact nodup_of_insert ha (nodup_of_insert hinsert hnodup)
    · exact nodup_of_insert hb (nodup_of_insert hother hnodup)

/-- A leaf stands in the way of the new one, and an array beside it. -/
theorem get?_insert_through_leaf :
    let tree : VariableTree := ⟨[("user".toList, .leaf "login"), ("items".toList, .array)]⟩
    let path : Text := " user.name ".toList
    pathNames path.trim = ["user".toList, "name".toList] ∧
    tree.insert " user.".toList "string" = .error ⟨" user.".toList⟩ ∧
    ∃ tree', tree.insert path "string" = .ok tree' ∧
      tree'.get? "user.name".toList = some (.leaf "string") ∧
      tree'.get? "user.name.first".toList = none ∧
      (∃ children : Children, tree'.get? "user".toList = some (.object children) ∧
        children.names = ["name".toList]) ∧
      tree'.get? "items".toList = some .array ∧
      tree'.names = ["user".toList, "items".toList] ∧
      ∃ a b, tree'.insert "user.email".toList "" = .ok a ∧
        (∃ other, tree.insert "user.email".toList "" = .ok other ∧
          other.insert path "string" = .ok b) ∧
        a.same b = true := by
  intro tree path
  have hnames : pathNames path.trim = ["user".toList, "name".toList] := by decide
  have hemail : pathNames (Text.trim "user.email".toList) = ["user".toList, "email".toList] := by
    decide
  obtain ⟨tree', hinsert, hadded, -, hcomm⟩ :=
    (get?_insert tree path "string").2 (by rw [hnames]; decide)
  rw [hnames] at hadded hcomm
  obtain ⟨a, b, ha, hb, -, hsame⟩ := hcomm "user.email".toList "" _ rfl
    (by rw [hemail]; decide) (by rw [hemail]; decide)
  refine ⟨hnames, (get?_insert tree _ "string").1 (by decide), tree', hinsert,
    hadded.here _ (by decide), hadded.below _ (by decide) (by decide),
    hadded.above _ _ [] (by decide), hadded.elsewhere _ (by decide) (by decide),
    hadded.top _ _ rfl, a, b, ha, ⟨_, rfl, hb⟩, hsame ?_⟩
  refine .object (by decide) fun child hchild ↦ ?_
  obtain rfl | rfl := List.mem_pair.1 hchild
  · exact .leaf _
  · exact .array

end VariableTree

end TemplateAssist
