import TemplateAssist.Proofs.Variable.Insertion

/-!
# Laying one tree over another

`VariableTree.merge` goes through the children of the upper tree one after the other and lays each
over the child of its name, level by level.  This file says what that makes of every path.

* `Node.get?_mergeChildren`, `Node.names_mergeChildren` — one level: what is found by a name, and
  the names in order;
* `Node.find?_merge_of_eq_some` — where the upper tree has a node, it is laid over what the same
  path leads to in the lower one;
* `Node.find?_merge_of_eq_none` — where it has none, the lower tree shows through, unless the path
  runs into something that is no object;
* `VariableTree.get?_merge` — all together, for paths as they are written.

In a list of children a name could stand twice, and laying the children over others one by one
would then find the second of them.  So the upper tree is asked to have no name twice at any level,
as no tree that is built has (`VariableTree.Built.keyed`); the lower one can be any.
-/

set_option autoImplicit false

namespace TemplateAssist

/-! ## One level -/

/-- Names, followed by those of others that are not among them. -/
def withNames (others names : List Text) : List Text :=
  names ++ others.filter fun name ↦ !names.contains name

namespace Children

theorem get?_eq_none {children : Children} {name : Text} (h : name ∉ children.names) :
    children.get? name = none := by
  refine Option.eq_none_iff_forall_ne_some.2 fun node hnode ↦ h ?_
  exact List.mem_map.2 ⟨(name, node), mem_of_get? hnode, rfl⟩

theorem alter_of_not_mem {children : Children} {name : Text} (f : Option Node → Node)
    (h : name ∉ children.names) : alter name f children = children ++ [(name, f none)] := by
  induction children with
  | nil => rfl
  | cons child children ih =>
    rw [names_cons, List.mem_cons, not_or] at h
    rw [alter, if_neg (Ne.symm h.1), ih h.2, List.cons_append]

theorem alter_eq_self {children : Children} {name : Text} {f : Option Node → Node} {node : Node}
    (h : children.get? name = some node) (hf : f (some node) = node) :
    alter name f children = children := by
  induction children with
  | nil => cases h
  | cons child children ih =>
    obtain ⟨key, first⟩ := child
    rw [get?_cons] at h
    rw [alter]
    split at h
    · next heq =>
      obtain rfl := Option.some.inj h
      rw [if_pos heq.symm, hf]
    · next hne => rw [if_neg (Ne.symm hne), ih h]

end Children

namespace Node

/-- The node laid over what is below it, if anything is. -/
def layOver (node : Node) : Option Node → Node
  | some below => below.merge node
  | none => node

theorem layOver_of_isObject_eq_false {node : Node} (h : node.isObject = false)
    (below : Option Node) : node.layOver below = node := by
  cases node with
  | leaf description => cases below <;> simp [layOver, merge]
  | array => cases below <;> simp [layOver, merge]
  | object children => cases h

theorem merge_of_isObject_eq_false {lower : Node} (h : lower.isObject = false) (upper : Node) :
    lower.merge upper = upper := by
  cases upper with
  | leaf description => rw [merge]; nofun
  | array => rw [merge]; nofun
  | object children =>
    cases lower with
    | leaf description => rfl
    | array => rfl
    | object children => cases h

@[simp]
theorem mergeChildren_nil (lower : Children) : mergeChildren lower [] = lower := by
  rw [mergeChildren]

theorem mergeChildren_cons (lower : Children) (name : Text) (node : Node) (upper : Children) :
    mergeChildren lower ((name, node) :: upper)
      = mergeChildren (Children.alter name node.layOver lower) upper := by
  rw [mergeChildren]
  congr

/-- Children with other names go to the end. -/
theorem mergeChildren_of_nodup {lower upper : Children}
    (h : (lower.names ++ upper.names).Nodup) : mergeChildren lower upper = lower ++ upper := by
  induction upper generalizing lower with
  | nil => rw [mergeChildren_nil, List.append_nil]
  | cons child upper ih =>
    obtain ⟨name, node⟩ := child
    have hname : name ∉ lower.names := fun hmem ↦
      (List.nodup_append.1 h).2.2 name hmem name List.mem_cons_self rfl
    rw [mergeChildren_cons, Children.alter_of_not_mem _ hname, ih, List.append_assoc]
    · rfl
    · rwa [Children.names, List.map_append, List.append_assoc]

theorem nil_mergeChildren {upper : Children} (h : upper.names.Nodup) :
    mergeChildren [] upper = upper :=
  mergeChildren_of_nodup h

/-- **One level, by name**: a child is laid over the one of its name. -/
theorem get?_mergeChildren {upper : Children} (h : upper.names.Nodup) (lower : Children)
    (name : Text) : Children.get? (mergeChildren lower upper) name
      = ((upper.get? name).map fun node ↦ node.layOver (lower.get? name)).or (lower.get? name) := by
  induction upper generalizing lower with
  | nil => rw [mergeChildren_nil]; rfl
  | cons child upper ih =>
    obtain ⟨key, node⟩ := child
    obtain ⟨hkey, hupper⟩ := List.nodup_cons.1 h
    rw [mergeChildren_cons, ih hupper, Children.get?_alter, Children.get?_cons]
    by_cases heq : name = key
    · rw [heq, Children.get?_eq_none hkey]
      simp
    · rw [if_neg heq, if_neg heq]

/-- **One level, in order**: new names come after the old ones. -/
theorem names_mergeChildren {upper : Children} (h : upper.names.Nodup) (lower : Children) :
    Children.names (mergeChildren lower upper) = withNames upper.names lower.names := by
  induction upper generalizing lower with
  | nil => rw [mergeChildren_nil]; exact (List.append_nil _).symm
  | cons child upper ih =>
    obtain ⟨key, node⟩ := child
    obtain ⟨hkey, hupper⟩ := List.nodup_cons.1 h
    rw [mergeChildren_cons, ih hupper, Children.names_alter, Children.names_cons, withNames,
      withNames]
    split
    · next hmem => rw [List.filter_cons_of_neg (by simpa using hmem)]
    · next hmem =>
      rw [List.filter_cons_of_pos (by simpa using hmem), List.append_assoc, List.singleton_append]
      congr 2
      refine List.filter_congr fun name hname ↦ ?_
      have hne : name ≠ key := fun heq ↦ hkey (heq ▸ hname)
      simp [hne]

/-! ## What a path leads to -/

/-- An object is laid over the children of whatever is below it. -/
theorem children_merge {upper : Children} (h : upper.names.Nodup) (lower : Node) :
    (lower.merge (object upper)).children = mergeChildren lower.children upper := by
  cases lower with
  | object children => rw [merge]; rfl
  | leaf description => exact (nil_mergeChildren h).symm
  | array => exact (nil_mergeChildren h).symm

theorem find?_merge_cons {upper : Children} (h : upper.names.Nodup) (lower : Node) (name : Text)
    (path : List Text) : (lower.merge (object upper)).find? (name :: path)
      = (((upper.get? name).map fun node ↦ node.layOver (lower.children.get? name)).or
          (lower.children.get? name)).bind (find? path) := by
  rw [find?_cons, children_merge h, get?_mergeChildren h]

/-- **Where the upper tree has a node**, it is laid over what the lower tree has there. -/
theorem find?_merge_of_eq_some {lower upper node : Node} {path : List Text}
    (hupper : upper.Everywhere (·.names.Nodup)) (h : upper.find? path = some node) :
    (lower.merge upper).find? path = some (node.layOver (lower.find? path)) := by
  induction path generalizing lower upper with
  | nil =>
    obtain rfl := Option.some.inj h
    rfl
  | cons name path ih =>
    cases hupper with
    | leaf description => cases h
    | array => cases h
    | @object children here below =>
      obtain ⟨child, hchild, hnode⟩ := Option.bind_eq_some_iff.1 h
      have hbelow := below _ (Children.mem_of_get? hchild)
      rw [find?_merge_cons here, hchild, find?_cons]
      cases lower.children.get? name with
      | none => exact hnode
      | some node => exact ih hbelow hnode

/-- **Where the upper tree has no node**, what the lower tree has there shows through, if the path
runs into nothing but objects. -/
theorem find?_merge_of_eq_none {lower upper : Node} {path : List Text}
    (hupper : upper.Everywhere (·.names.Nodup)) (h : upper.find? path = none)
    (hobjects : ∀ us node, us <+: path → upper.find? us = some node → node.isObject = true) :
    (lower.merge upper).find? path = lower.find? path := by
  induction path generalizing lower upper with
  | nil => cases h
  | cons name path ih =>
    have hroot := hobjects [] upper List.nil_prefix rfl
    cases hupper with
    | leaf description => cases hroot
    | array => cases hroot
    | @object children here below =>
      rw [find?_merge_cons here, find?_cons]
      cases hchild : children.get? name with
      | none => rfl
      | some child =>
        have hbelow := below _ (Children.mem_of_get? hchild)
        rw [find?_cons, Node.children, hchild, Option.bind_some] at h
        cases lower.children.get? name with
        | none => exact h
        | some node =>
          refine ih hbelow h fun us found hus hfound ↦ ?_
          refine hobjects (name :: us) found (List.cons_prefix_cons.2 ⟨rfl, hus⟩) ?_
          rw [find?_cons, Node.children, hchild]
          exact hfound

/-- Nothing shows through below a node of the upper tree that is no object. -/
theorem find?_merge_eq_none {lower upper node : Node} {us path : List Text}
    (hupper : upper.Everywhere (·.names.Nodup)) (h : upper.find? path = none) (hus : us <+: path)
    (hnode : upper.find? us = some node) (hobject : node.isObject = false) :
    (lower.merge upper).find? path = none := by
  obtain ⟨rest, rfl⟩ := hus
  rw [find?_append, hnode] at h
  rw [find?_append, find?_merge_of_eq_some hupper hnode, layOver_of_isObject_eq_false hobject]
  exact h

/-! ## Laying a tree over itself -/

theorem mergeChildren_eq_self {lower upper : Children}
    (h : ∀ child ∈ upper, lower.get? child.1 = some child.2 ∧ child.2.merge child.2 = child.2) :
    mergeChildren lower upper = lower := by
  induction upper with
  | nil => exact mergeChildren_nil lower
  | cons child upper ih =>
    obtain ⟨⟨hget, hself⟩, hupper⟩ := List.forall_mem_cons.1 h
    rw [mergeChildren_cons, Children.alter_eq_self hget hself, ih hupper]

theorem merge_self {node : Node} (h : node.Everywhere (·.names.Nodup)) :
    node.merge node = node := by
  induction h with
  | leaf description => rw [merge]; nofun
  | array => rw [merge]; nofun
  | object here _ ih =>
    rw [merge, mergeChildren_eq_self]
    exact fun child hchild ↦ ⟨Children.get?_of_mem here hchild, ih child hchild⟩

end Node

/-! ## Paths as they are written -/

namespace VariableTree

theorem root_merge (lower upper : VariableTree) :
    (lower.merge upper).root = lower.root.merge upper.root := by
  rw [root, root, root, Node.merge]
  rfl

/-- What `lower` becomes when `upper` is laid over it. -/
structure Merged (lower upper merged : VariableTree) : Prop where
  /-- A leaf or an array stays what it is. -/
  value : ∀ q node, upper.get? q = some node → node.isObject = false → merged.get? q = some node
  /-- So does an object over no object. -/
  object : ∀ q node, upper.get? q = some node → (∀ below, lower.get? q = some below →
    below.isObject = false) → merged.get? q = some node
  /-- Objects have the names of both, the new ones at the end. -/
  objects : ∀ q above below, upper.get? q = some (.object above) →
    lower.get? q = some (.object below) → ∃ children : Children,
      merged.get? q = some (.object children) ∧
        children.names = withNames (Children.names above) (Children.names below)
  /-- Where nothing is laid over it, the lower tree shows through. -/
  untouched : ∀ q, upper.get? q = none → (∀ p node, pathNames p <+: pathNames q →
    upper.get? p = some node → node.isObject = true) → merged.get? q = lower.get? q
  /-- It does not below a leaf or an array. -/
  hidden : ∀ q p node, upper.get? q = none → pathNames p <+: pathNames q →
    upper.get? p = some node → node.isObject = false → merged.get? q = none
  top : merged.names = withNames upper.names lower.names

theorem merged_merge (lower : VariableTree) {upper : VariableTree}
    (h : upper.root.Everywhere (·.names.Nodup)) : Merged lower upper (lower.merge upper) where
  value q node hnode hobject := by
    rw [get?, root_merge, Node.find?_merge_of_eq_some h hnode,
      Node.layOver_of_isObject_eq_false hobject]
  object q node hnode hbelow := by
    rw [get?, root_merge, Node.find?_merge_of_eq_some h hnode]
    change some (node.layOver (lower.get? q)) = some node
    cases hlower : lower.get? q with
    | none => rfl
    | some below => rw [Node.layOver, Node.merge_of_isObject_eq_false (hbelow below hlower)]
  objects q above below habove hbelow := by
    have hnodup := (h.find? habove).children List.nodup_nil
    refine ⟨_, ?_, Node.names_mergeChildren hnodup below⟩
    rw [get?, root_merge, Node.find?_merge_of_eq_some h habove]
    change some (Node.layOver (.object above) (lower.get? q)) = _
    rw [hbelow, Node.layOver, Node.merge]
    rfl
  untouched q hq hobjects := by
    rw [get?, root_merge]
    refine Node.find?_merge_of_eq_none h hq fun us node hus hnode ↦ ?_
    cases us with
    | nil =>
      obtain rfl := Option.some.inj hnode
      rfl
    | cons name us =>
      -- what comes first in a path is a path itself
      have hpath : pathNames (['.'].intercalate (name :: us)) = name :: us :=
        List.splitOn_intercalate '.'
          (fun piece hpiece ↦ Text.not_mem_of_mem_splitOn (hus.subset hpiece))
          (List.cons_ne_nil name us)
      exact hobjects _ node (by rw [hpath]; exact hus) (by rw [get?, hpath]; exact hnode)
  hidden q p node hq hp hnode hobject := by
    rw [get?, root_merge]
    exact Node.find?_merge_eq_none h hq hp hnode hobject
  top := Node.names_mergeChildren (h.children List.nodup_nil) lower.children

/-- **Laying a tree over another**, path by path.  Where the upper tree has a node, the node wins,
except that objects go together, with new names after the old ones; where it has none, the lower
tree shows through, unless a leaf or an array of the upper one is in the way.  So neither the empty
tree nor the tree itself changes anything, in either order and down to the order of names. -/
theorem get?_merge (lower upper : VariableTree) (h : upper.root.Everywhere (·.names.Nodup)) :
    Merged lower upper (lower.merge upper) ∧
      upper.merge empty = upper ∧ empty.merge upper = upper ∧ upper.merge upper = upper := by
  refine ⟨merged_merge lower h, ?_, ?_, ?_⟩
  · rw [merge, empty, Node.mergeChildren_nil]
  · exact congrArg mk (Node.nil_mergeChildren (h.children List.nodup_nil))
  · have hself := congrArg Node.children (Node.merge_self h)
    rw [← root_merge] at hself
    exact congrArg mk hself

/-- An object meets an object, an array an object and an object an array. -/
theorem get?_merge_objects :
    let lower : VariableTree := ⟨[("user".toList, .object [("name".toList, .leaf "string"),
      ("age".toList, .leaf "number")]), ("tags".toList, .object [("first".toList, .array)]),
      ("page".toList, .array)]⟩
    let upper : VariableTree := ⟨[("site".toList, .leaf "string"),
      ("page".toList, .object [("title".toList, .leaf "string")]), ("tags".toList, .array),
      ("user".toList, .object [("mail".toList, .leaf "string"), ("age".toList, .array)])]⟩
    let merged := lower.merge upper
    merged.names = ["user".toList, "tags".toList, "page".toList, "site".toList] ∧
      merged.get? "tags".toList = some .array ∧
      merged.get? "page".toList = some (.object [("title".toList, .leaf "string")]) ∧
      (∃ children : Children, merged.get? "user".toList = some (.object children) ∧
        children.names = ["name".toList, "age".toList, "mail".toList]) ∧
      merged.get? "user.name".toList = lower.get? "user.name".toList ∧
      merged.get? "tags.first".toList = none ∧ upper.merge upper = upper := by
  intro lower upper merged
  have hnodup : upper.root.Everywhere (·.names.Nodup) := by
    simp only [upper, root, Node.everywhere_object_iff, List.forall_mem_cons, List.not_mem_nil,
      Node.Everywhere.leaf, Node.Everywhere.array, IsEmpty.forall_iff, implies_true, and_true]
    decide
  obtain ⟨hmerged, -, -, hself⟩ := get?_merge lower upper hnodup
  have hobjects := hmerged.objects "user".toList _ _ rfl rfl
  refine ⟨hmerged.top, hmerged.value _ _ rfl rfl, hmerged.object _ _ rfl ?_, hobjects,
    hmerged.untouched _ rfl ?_, hmerged.hidden _ "tags".toList .array rfl (by decide) rfl rfl,
    hself⟩
  · intro below hbelow
    obtain rfl := Option.some.inj hbelow
    rfl
  · intro p node hp hnode
    rw [get?] at hnode
    rcases List.prefix_cons_iff.1 hp with heq | ⟨names, heq, hnames⟩
    · exact absurd heq (pathNames_ne_nil p)
    · rw [heq] at hnode
      rcases List.prefix_cons_iff.1 hnames with rfl | ⟨names, rfl, -⟩
      · obtain rfl := Option.some.inj hnode
        rfl
      · cases hnode

end VariableTree
end TemplateAssist
