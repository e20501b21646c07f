import TemplateAssist.Proofs.Cursor.Context
import TemplateAssist.Proofs.Cursor.Path

/-!
# The path of an expression opened earlier

There are two ways to the path before a dot.  `Text.contextAt` looks at the line of the cursor and
finds the open block there; `objectPathBefore?` searches a stretch of the text, over line ends and
from the middle of a block if need be, for an expression that no brace has closed.

`OpenPath` says what the second one looks for: an opener, no closing brace after it, and a path.  A
text may end with many such paths, one for each name at its end, and each of them is a part of the
longest (`IsPath.suffix_of_boundary`).  The search takes the leftmost opener and the shortest gap
after it that leave a path, and the gap can end nowhere before the longest path, nor need it go on
where that starts (`pathAfterGap?_append`).  So it comes to the longest path in one step from the
end of the text (`openExpressionPath?_eq_openLastPath?`).  Where the first way finds a path at all
and its opener is within the stretch, it is the same (`openPath_of_property`).
-/

set_option autoImplicit false

namespace TemplateAssist

/-! ## Paths at the end of a text -/

theorem isPath_append_dot_iff {u v : Text} : IsPath (u ++ '.' :: v) ↔ IsPath u ∧ IsPath v := by
  simp only [IsPath, List.splitOn_append_cons_self, List.forall_mem_append]

/-- A path ends with a word character. -/
theorem IsPath.exists_eq_concat {path : Text} (h : IsPath path) :
    ∃ v c, path = v ++ [c] ∧ isWordChar c = true := by
  obtain ⟨v, c, rfl⟩ := (List.eq_nil_or_concat' path).resolve_left h.ne_nil
  refine ⟨v, c, rfl, (isPathChar_iff.1 (h.isPathChar_of_mem c (by simp))).resolve_right ?_⟩
  rintro rfl
  exact (isPath_append_dot_iff.1 h).2.ne_nil rfl

/-- A path at the end of a text is a part of the longest one there. -/
theorem IsPath.suffix_of_boundary {u path other : Text} (hother : IsPath other)
    (hu : PathBoundary u) (h : other <:+ u ++ path) : other <:+ path := by
  rcases List.suffix_or_suffix_of_suffix h (List.suffix_append u path) with hle | ⟨v, rfl⟩
  · exact hle
  obtain ⟨w, hw⟩ := h
  rw [← List.append_assoc] at hw
  obtain rfl : u = w ++ v := (List.append_cancel_right hw).symm
  -- the path could only go on into `u` with a word character, or with one and a dot
  rcases List.eq_nil_or_concat' v with rfl | ⟨x, d, rfl⟩
  · exact List.suffix_rfl
  have hd : isWordChar d = false := hu (w ++ x) d (.inl (by simp))
  obtain rfl : d = '.' := eq_dot_of_isPathChar (hother.isPathChar_of_mem d (by simp)) hd
  rw [List.append_assoc, List.singleton_append] at hother
  obtain ⟨y, c, rfl, hc⟩ := (isPath_append_dot_iff.1 hother).1.exists_eq_concat
  have hfalse : isWordChar c = false := hu (w ++ y) c (.inr (by simp))
  rw [hc] at hfalse
  cases hfalse

theorem pathAtEnd_concat_ne_nil (r : Text) {c : Char} (h : c ≠ '.') :
    pathAtEnd (r ++ [c]) ≠ [] := by
  have hjoin : ['.'].intercalate ((r ++ [c]).splitOn '.') = r ++ [c] :=
    List.intercalate_splitOn '.'
  obtain ⟨init, last, hpieces⟩ :=
    (List.eq_nil_or_concat' _).resolve_left (List.splitOn_ne_nil '.' (r ++ [c]))
  have hlast : last ≠ [] := by
    rintro rfl
    rw [hpieces] at hjoin
    by_cases hinit : init = []
    · simp [hinit] at hjoin
    · rw [Text.intercalate_append hinit (List.cons_ne_nil _ _)] at hjoin
      exact h (by simpa using (congrArg List.getLast? hjoin).symm)
  obtain ⟨d, hd⟩ := List.exists_mem_of_ne_nil last hlast
  have hdot : d ≠ '.' := by
    rintro rfl
    exact Text.not_mem_of_mem_splitOn (by rw [hpieces]; simp) hd
  refine List.ne_nil_of_mem (a := d) ((Text.mem_intercalate hdot).2 ⟨last, ?_, hd⟩)
  simp [hpieces, hlast]

/-- The longest path at the end of a text. -/
def Text.lastPath (t : Text) : Text := pathAtEnd (t.trailing isPathChar)

theorem Text.lastPath_ne_nil {t path : Text} (hpath : IsPath path) (h : path <:+ t) :
    t.lastPath ≠ [] := by
  obtain ⟨u, rfl⟩ := h
  obtain ⟨v, c, rfl, hc⟩ := hpath.exists_eq_concat
  rw [lastPath, trailing_append _ hpath.isPathChar_of_mem, ← List.append_assoc]
  refine pathAtEnd_concat_ne_nil _ ?_
  rintro rfl
  cases isWordChar_dot.symm.trans hc

theorem Text.exists_eq_append_lastPath {t : Text} (h : t.lastPath ≠ []) :
    ∃ u, t = u ++ t.lastPath ∧ PathBoundary u ∧ IsPath t.lastPath := by
  have hcut := beforeTrailing_append_trailing isPathChar t
  obtain ⟨r, heq, hr, -⟩ := exists_pathAtEnd h
  refine ⟨t.beforeTrailing isPathChar ++ r, ?_, pathBoundary_append t hr,
    isPath_pathAtEnd (fun c ↦ of_mem_trailing) h⟩
  rw [lastPath, List.append_assoc, ← heq, hcut]

/-! ## Paths in an open expression -/

/-- The text ends with a path.  An expression is opened somewhere before it, and no brace between
the two closes it. -/
structure OpenPath (t path : Text) : Prop where
  isPath : IsPath path
  opened : ∃ u v, t = u ++ BlockKind.expression.opener ++ v ++ path ∧ '}' ∉ v

theorem OpenPath.suffix {t path : Text} (h : OpenPath t path) : path <:+ t := by
  obtain ⟨u, v, rfl, -⟩ := h.opened
  exact List.suffix_append _ _

/-- An expression is open at the end of the text. -/
def Text.InExpression (t : Text) : Prop :=
  ∃ u v, t = u ++ BlockKind.expression.opener ++ v ∧ '}' ∉ v

theorem Text.inExpression_cons_iff {c : Char} {t : Text} : Text.InExpression (c :: t) ↔
    (∃ v, c :: t = BlockKind.expression.opener ++ v ∧ '}' ∉ v) ∨ t.InExpression := by
  constructor
  · rintro ⟨_ | ⟨d, u⟩, v, heq, hv⟩
    · exact .inl ⟨v, heq, hv⟩
    · exact .inr ⟨u, v, (List.cons_eq_cons.1 heq).2, hv⟩
  · rintro (⟨v, heq, hv⟩ | ⟨u, v, rfl, hv⟩)
    · exact ⟨[], v, heq, hv⟩
    · exact ⟨c :: u, v, rfl, hv⟩

theorem openPath_append_iff {u path : Text} : OpenPath (u ++ path) path ↔
    IsPath path ∧ u.InExpression := by
  constructor
  · rintro ⟨hpath, v, w, heq, hw⟩
    exact ⟨hpath, v, w, List.append_cancel_right heq, hw⟩
  · rintro ⟨hpath, v, w, rfl, hw⟩
    exact ⟨hpath, v, w, rfl, hw⟩

/-- The opener before a path stands before every longer one as well. -/
theorem OpenPath.of_suffix {u path other : Text} (h : OpenPath (u ++ path) other)
    (hpath : IsPath path) (hsuffix : other <:+ path) : OpenPath (u ++ path) path := by
  obtain ⟨v, w, heq, hw⟩ := h.opened
  obtain ⟨x, rfl⟩ := hsuffix
  rw [← List.append_assoc] at heq
  refine openPath_append_iff.2 ⟨hpath, ?_⟩
  rcases List.append_eq_append_iff.1 (List.append_cancel_right heq) with
    ⟨y, hopener, hx⟩ | ⟨y, rfl, rfl⟩
  · -- nothing of the opener is in the path
    rcases List.eq_nil_or_concat' y with rfl | ⟨z, c, rfl⟩
    · exact ⟨v, [], by simp [hopener], by simp⟩
    · have hc : c = '{' := by simpa [BlockKind.opener] using (congrArg List.getLast? hopener).symm
      have hbrace := hpath.isPathChar_of_mem c (by simp [hx])
      rw [hc] at hbrace
      cases hbrace
  · exact ⟨v, y, rfl, fun hmem ↦ hw (List.mem_append_left x hmem)⟩

/-- A path in an open expression is a part of the longest one, which is in an open expression
too. -/
theorem OpenPath.lastPath {t path : Text} (h : OpenPath t path) :
    path <:+ t.lastPath ∧ OpenPath t t.lastPath := by
  obtain ⟨u, heq, hu, hlast⟩ :=
    Text.exists_eq_append_lastPath (Text.lastPath_ne_nil h.isPath h.suffix)
  have hsuffix : path <:+ t.lastPath := h.isPath.suffix_of_boundary hu (heq ▸ h.suffix)
  refine ⟨hsuffix, ?_⟩
  generalize t.lastPath = last at *
  subst heq
  exact h.of_suffix hlast hsuffix

/-! ## What the search goes through -/

theorem dropFinalNewline_append_path {u path post : Text} (hpath : IsPath path)
    (hpost : post = [] ∨ post = ['\n']) :
    dropFinalNewline (u ++ (path ++ post)) = u ++ path := by
  obtain ⟨v, c, rfl, hc⟩ := hpath.exists_eq_concat
  have hne : c ≠ '\n' := ne_of_isWordChar hc (by decide)
  rcases hpost with rfl | rfl
  · rw [dropFinalNewline, List.append_nil, if_neg (by simpa using hne)]
  · rw [dropFinalNewline, ← List.append_assoc, List.getLast?_concat, if_pos rfl,
      List.dropLast_concat]

theorem exists_eq_dropFinalNewline_append (t : Text) :
    ∃ post, (post = [] ∨ post = ['\n']) ∧ t = dropFinalNewline t ++ post := by
  rw [dropFinalNewline]
  split
  · next hlast =>
    obtain ⟨u, rfl⟩ := List.getLast?_eq_some_iff.1 hlast
    exact ⟨['\n'], .inr rfl, by rw [List.dropLast_concat]⟩
  · exact ⟨[], .inl rfl, (List.append_nil t).symm⟩

/-- A text ends with a path, or with one and a newline. -/
structure EndsWithPath (t path : Text) : Prop where
  isPath : IsPath path
  exists_eq : ∃ u post, (post = [] ∨ post = ['\n']) ∧ t = u ++ (path ++ post)

theorem EndsWithPath.append {t path : Text} (h : EndsWithPath t path) (u : Text) :
    EndsWithPath (u ++ t) path := by
  obtain ⟨v, post, hpost, rfl⟩ := h.exists_eq
  exact ⟨h.isPath, u ++ v, post, hpost, (List.append_assoc u v _).symm⟩

theorem EndsWithPath.suffix {t path : Text} (h : EndsWithPath t path) :
    path <:+ dropFinalNewline t := by
  obtain ⟨u, post, hpost, rfl⟩ := h.exists_eq
  rw [dropFinalNewline_append_path h.isPath hpost]
  exact List.suffix_append u path

theorem wholePath?_eq_some_iff {t path : Text} :
    wholePath? t = some path ↔ path = dropFinalNewline t ∧ IsPath path := by
  have hnames : ((dropFinalNewline t).splitOn '.').all (fun name ↦
      !name.isEmpty && name.all isWordChar) = true ↔ IsPath (dropFinalNewline t) := by
    simp [IsPath, IsWord, List.all_eq_true]
  rw [wholePath?, Option.ite_none_right_eq_some, hnames, Option.some_inj, and_comm, eq_comm,
    and_congr_right_iff]
  rintro rfl
  rfl

theorem PathBoundary.tail {c : Char} {u : Text} (h : PathBoundary (c :: u)) : PathBoundary u :=
  fun v d hvd ↦ h (c :: v) d (hvd.imp (congrArg (c :: ·)) (congrArg (c :: ·)))

section Search

variable {u path post : Text}

/-- The gap ends where the longest path starts. -/
theorem pathAfterGap?_append (hu : PathBoundary u) (hpath : IsPath path)
    (hpost : post = [] ∨ post = ['\n']) :
    pathAfterGap? (u ++ (path ++ post)) = if '}' ∈ u then none else some path := by
  induction u with
  | nil =>
    have hwhole : wholePath? (path ++ post) = some path :=
      wholePath?_eq_some_iff.2 ⟨(dropFinalNewline_append_path (u := []) hpath hpost).symm, hpath⟩
    obtain ⟨c, rest, heq⟩ := List.exists_cons_of_ne_nil
      (List.append_ne_nil_of_left_ne_nil hpath.ne_nil post)
    rw [List.nil_append, heq, pathAfterGap?, ← heq, hwhole]
    rfl
  | cons c u ih =>
    -- a path that starts in the gap would be longer
    have hnone : wholePath? (c :: (u ++ (path ++ post))) = none := by
      refine Option.eq_none_iff_forall_ne_some.2 fun other hother ↦ ?_
      obtain ⟨heq, hlonger⟩ := wholePath?_eq_some_iff.1 hother
      rw [← List.cons_append, dropFinalNewline_append_path hpath hpost] at heq
      have hsuffix : other <:+ c :: u ++ path := heq ▸ List.suffix_rfl
      have hle := (hlonger.suffix_of_boundary hu hsuffix).length_le
      rw [heq, List.length_append, List.length_cons] at hle
      omega
    rw [List.cons_append, pathAfterGap?, hnone, Option.none_or, ih hu.tail]
    by_cases hc : c = '}'
    · simp [hc]
    · simp [hc, Ne.symm hc]

/-- Whatever is found after a gap is a path at the end. -/
theorem pathAfterGap?_sound {t : Text} (h : pathAfterGap? t = some path) : EndsWithPath t path := by
  induction t with
  | nil => cases h
  | cons c rest ih =>
    rw [pathAfterGap?, Option.or_eq_some_iff, Option.ite_none_left_eq_some] at h
    rcases h with hwhole | ⟨-, -, hrest⟩
    · obtain ⟨rfl, hpath⟩ := wholePath?_eq_some_iff.1 hwhole
      exact ⟨hpath, [], exists_eq_dropFinalNewline_append (c :: rest)⟩
    · exact (ih hrest).append [c]

theorem openExpressionPath?_sound {t : Text} (h : openExpressionPath? t = some path) :
    EndsWithPath t path := by
  induction t with
  | nil => cases h
  | cons c rest ih =>
    rw [openExpressionPath?, Option.or_eq_some_iff, Option.ite_none_right_eq_some] at h
    rcases h with ⟨-, hgap⟩ | ⟨-, hrest⟩
    · have hend := (pathAfterGap?_sound hgap).append (c :: rest.take 1)
      rwa [List.cons_append, List.take_append_drop] at hend
    · exact (ih hrest).append [c]

theorem openExpressionPath?_of_not_mem {t : Text} (h : '{' ∉ t) : openExpressionPath? t = none := by
  induction t with
  | nil => rfl
  | cons c rest ih =>
    obtain ⟨hc, hrest⟩ := not_or.1 (List.mem_cons.not.1 h)
    rw [openExpressionPath?, ih hrest, if_neg, Option.none_or]
    simp [List.isPrefixOf, hc]

/-- An opener at the start of a text is whole in what stands before a stretch without braces. -/
theorem isPrefixOf_opener_append_iff {v : Text} (hv : '{' ∉ v) :
    ['{', '{'].isPrefixOf (u ++ v) = true ↔ ∃ w, u = BlockKind.expression.opener ++ w := by
  rw [List.isPrefixOf_iff_prefix]
  constructor
  · rintro ⟨w, hw⟩
    rcases List.append_eq_append_iff.1 hw with ⟨x, rfl, -⟩ | ⟨x, hopener, rfl⟩
    · exact ⟨x, rfl⟩
    · rcases List.eq_nil_or_concat' x with rfl | ⟨y, c, rfl⟩
      · exact ⟨[], by simpa [BlockKind.opener] using hopener.symm⟩
      · have hc : c = '{' := by simpa using (congrArg List.getLast? hopener).symm
        exact absurd (List.mem_append_left w (by simp [hc])) hv
  · rintro ⟨w, rfl⟩
    exact ⟨w ++ v, (List.append_assoc _ w v).symm⟩

/-- Before the longest path, the leftmost opener with no brace after it is as good as any other. -/
theorem openExpressionPath?_append (hu : PathBoundary u) (hpath : IsPath path)
    (hpost : post = [] ∨ post = ['\n']) {other : Text} :
    openExpressionPath? (u ++ (path ++ post)) = some other ↔ path = other ∧ u.InExpression := by
  have hbrace : '{' ∉ path ++ post := by
    intro hmem
    rcases List.mem_append.1 hmem with hmem | hmem
    · exact absurd (hpath.isPathChar_of_mem _ hmem) (by decide)
    · rcases hpost with rfl | rfl <;> simp at hmem
  induction u with
  | nil =>
    rw [List.nil_append, openExpressionPath?_of_not_mem hbrace]
    simp [Text.InExpression, BlockKind.opener]
  | cons c u ih =>
    have hrest : openExpressionPath? (u ++ (path ++ post)) = some other ↔
        path = other ∧ Text.InExpression u := ih hu.tail
    rw [List.cons_append, openExpressionPath?, Option.or_eq_some_iff, hrest,
      Text.inExpression_cons_iff]
    by_cases hopener : ∃ w, c :: u = BlockKind.expression.opener ++ w
    · obtain ⟨w, heq⟩ := hopener
      obtain ⟨rfl, rfl⟩ : c = '{' ∧ u = '{' :: w := by simpa [BlockKind.opener] using heq
      rw [if_pos (by simp [List.isPrefixOf]), List.cons_append, List.drop_one, List.tail_cons,
        pathAfterGap?_append hu.tail.tail hpath hpost]
      by_cases hw : '}' ∈ w <;> simp [hw, BlockKind.opener]
    · have hfalse : ¬['{', '{'].isPrefixOf (c :: (u ++ (path ++ post))) = true :=
        mt (isPrefixOf_opener_append_iff (u := c :: u) hbrace).1 hopener
      have hnone : ¬∃ v, c :: u = BlockKind.expression.opener ++ v ∧ '}' ∉ v := by
        rintro ⟨v, heq, -⟩
        exact hopener ⟨v, heq⟩
      rw [if_neg hfalse]
      simp [hnone]

end Search

/-! ## What the search finds -/

/-- The longest path at the end of a text, if an expression is open before it. -/
def Text.openLastPath? (t : Text) : Option Text :=
  let before : Text := t.take (t.length - t.lastPath.length)
  if t.lastPath ≠ [] ∧ (trailing (· ≠ '}') before).includes ['{', '{'] then some t.lastPath
  else none

theorem includes_opener_iff {u : Text} :
    (Text.trailing (· ≠ '}') u).includes ['{', '{'] = true ↔ u.InExpression := by
  constructor
  · intro h
    have hcut := Text.beforeTrailing_append_trailing (· ≠ '}') u
    have hbrace : '}' ∉ Text.trailing (· ≠ '}') u :=
      fun hmem ↦ by simpa using Text.of_mem_trailing hmem
    obtain ⟨n, hn⟩ := Option.isSome_iff_exists.1 h
    obtain ⟨v, w, heq, -⟩ := Text.hasAt_of_find? hn
    rw [heq] at hcut hbrace
    refine ⟨u.beforeTrailing (· ≠ '}') ++ v, w, ?_, fun hmem ↦ hbrace (by simp [hmem])⟩
    rw [List.append_assoc, List.append_assoc]
    exact hcut.symm
  · rintro ⟨v, w, rfl, hw⟩
    have hrest : ∀ c ∈ BlockKind.expression.opener ++ w, decide (c ≠ '}') = true := by
      intro c hc
      refine decide_eq_true ?_
      rintro rfl
      exact hw ((List.mem_append.1 hc).resolve_left (by decide))
    rw [List.append_assoc, Text.trailing_append _ hrest]
    exact Text.find?_isSome_of_hasAt ⟨Text.trailing (· ≠ '}') v, w, rfl, rfl⟩

theorem Text.openLastPath?_eq_some_iff {t path : Text} :
    t.openLastPath? = some path ↔ path = t.lastPath ∧ OpenPath t path := by
  simp only [openLastPath?, Option.ite_none_right_eq_some, Option.some_inj, includes_opener_iff]
  have hbefore {u : Text} (h : t = u ++ t.lastPath) :
      t.take (t.length - t.lastPath.length) = u := by
    generalize t.lastPath = last at h
    simp [h]
  constructor
  · rintro ⟨⟨hne, hopened⟩, rfl⟩
    obtain ⟨u, heq, -, hlast⟩ := exists_eq_append_lastPath hne
    rw [hbefore heq] at hopened
    have hopen := openPath_append_iff.2 ⟨hlast, hopened⟩
    rw [← heq] at hopen
    exact ⟨rfl, hopen⟩
  · rintro ⟨rfl, hopen⟩
    obtain ⟨u, heq, -, -⟩ := exists_eq_append_lastPath hopen.isPath.ne_nil
    have hopened : OpenPath (u ++ t.lastPath) t.lastPath := by rwa [← heq]
    rw [hbefore heq]
    exact ⟨⟨hopen.isPath.ne_nil, (openPath_append_iff.1 hopened).2⟩, rfl⟩

/-- **The search is for the longest path** at the end, whatever opener and gap lead to it. -/
theorem openExpressionPath?_eq_openLastPath? (window : Text) :
    openExpressionPath? window = (dropFinalNewline window).openLastPath? := by
  refine Option.ext fun path ↦ ?_
  rw [Text.openLastPath?_eq_some_iff]
  by_cases hlast : (dropFinalNewline window).lastPath = []
  · refine iff_of_false (fun hfound ↦ ?_) ?_
    · have hend := openExpressionPath?_sound hfound
      exact Text.lastPath_ne_nil hend.isPath hend.suffix hlast
    · rintro ⟨rfl, hopen⟩
      exact hopen.isPath.ne_nil hlast
  · obtain ⟨u, heq, hu, hpath⟩ := Text.exists_eq_append_lastPath hlast
    obtain ⟨post, hpost, hwindow⟩ := exists_eq_dropFinalNewline_append window
    generalize (dropFinalNewline window).lastPath = last at *
    rw [heq, List.append_assoc] at hwindow
    rw [hwindow, openExpressionPath?_append hu hpath hpost, ← hwindow, heq, eq_comm,
      and_congr_right_iff]
    rintro rfl
    rw [openPath_append_iff, and_iff_right hpath]

/-- The search looks at the longest path only. -/
theorem openExpressionPath?_eq_some_iff_lastPath {window path : Text} :
    openExpressionPath? window = some path ↔
      path = (dropFinalNewline window).lastPath ∧ OpenPath (dropFinalNewline window) path := by
  rw [openExpressionPath?_eq_openLastPath?, Text.openLastPath?_eq_some_iff]

/-- **The search finds the longest path** among those in an open expression. -/
theorem openExpressionPath?_eq_some_iff {window path : Text} :
    openExpressionPath? window = some path ↔ OpenPath (dropFinalNewline window) path ∧
      ∀ other, OpenPath (dropFinalNewline window) other → other.length ≤ path.length := by
  rw [openExpressionPath?_eq_some_iff_lastPath]
  constructor
  · rintro ⟨rfl, hopen⟩
    exact ⟨hopen, fun other hother ↦ hother.lastPath.1.length_le⟩
  · rintro ⟨hopen, hlongest⟩
    obtain ⟨hsuffix, hlast⟩ := hopen.lastPath
    exact ⟨hsuffix.eq_of_length_le (hlongest _ hlast), hopen⟩

theorem openExpressionPath?_isSome_iff {window : Text} :
    (openExpressionPath? window).isSome = true ↔
      ∃ path, OpenPath (dropFinalNewline window) path := by
  simp only [Option.isSome_iff_exists, openExpressionPath?_eq_some_iff_lastPath]
  constructor
  · rintro ⟨path, -, hopen⟩
    exact ⟨path, hopen⟩
  · rintro ⟨path, hopen⟩
    exact ⟨_, rfl, hopen.lastPath.2⟩

/-! ## The path that the context of the cursor has -/

/-- A character that cannot be part of a path keeps what comes before it out of the paths after
it. -/
theorem PathBoundary.append {u : Text} (hu : PathBoundary u) (v : Text) {d : Char}
    (hd : isPathChar d = false) : PathBoundary (v ++ [d] ++ u) := by
  have hle : (v ++ [d]).length ≤ (Text.beforeTrailing isPathChar (v ++ [d] ++ u)).length := by
    by_contra hlt
    rw [List.length_append, List.length_singleton, Nat.not_le, Nat.lt_succ_iff] at hlt
    have htrue := Text.length_beforeTrailing_le_iff.1 hlt d (by simp)
    rw [hd] at htrue
    cases htrue
  have hrun := Text.trailing_drop hle
  rw [List.drop_left] at hrun
  rw [← Text.beforeTrailing_append_trailing isPathChar (v ++ [d] ++ u)]
  exact pathBoundary_append _ (hrun ▸ hu.dotsBefore)

/-- The line of the cursor, cut before and after the opener of the block that is open there. -/
theorem Text.take_eq_of_openBlock? {t content : Text} {pos a : Nat} {kind : BlockKind}
    (hpos : pos ≤ t.length) (h : openBlock? (t.lineBefore pos).2 = some (kind, content))
    (ha : IsLeast {a | (t.lineBefore pos).2.OpensAt a} a) :
    ∃ head pre, t.take pos = head ++ kind.opener ++ (pre ++ content) ∧
      head.length = (t.lineBefore pos).1 + a ∧ (∀ c ∈ pre, isBlank c = true) ∧
      ∀ c ∈ pre ++ content, c ∉ ['}', '%', '#'] := by
  obtain ⟨b, hb, hopener, rfl⟩ := openBlock?_eq_some_iff.1 h
  obtain rfl := ha.unique hb
  obtain ⟨⟨_, hat⟩, hopen⟩ := ha.1
  have hline : t.take pos = t.take (t.lineBefore pos).1 ++ (t.lineBefore pos).2 := by
    rw [take_lineStart hpos, lineBefore_natCast hpos, beforeTrailing_append_trailing]
  have hsum := start_add_length_lineBefore hpos
  generalize (t.lineBefore pos).2 = line at *
  have hcut : line = line.take a ++ kind.opener ++ line.drop (a + 2) := by
    rw [hopener, line.take_append_slice (Nat.le_add_right a 2), List.take_append_drop]
  refine ⟨t.take (t.lineBefore pos).1 ++ line.take a, (line.drop (a + 2)).takeWhile isBlank,
    ?_, ?_, fun c ↦ List.mem_takeWhile_imp, ?_⟩
  · rw [trimLeft, List.takeWhile_append_dropWhile, hline]
    nth_rewrite 1 [hcut]
    simp only [List.append_assoc]
  · have hle := hat.length_le
    rw [List.length_append, List.length_take_of_le (by omega), List.length_take_of_le (by omega)]
  · rwa [trimLeft, List.takeWhile_append_dropWhile]

/-- What stands between the opener and the path is no part of the path. -/
theorem pathBoundary_opener {u pre : Text} (hu : PathBoundary u) (v : Text)
    (hpre : ∀ c ∈ pre, isBlank c = true) :
    PathBoundary (v ++ BlockKind.expression.opener ++ (pre ++ u)) := by
  rcases List.eq_nil_or_concat' pre with rfl | ⟨w, d, rfl⟩
  · have hboundary := hu.append (v ++ ['{']) (d := '{') (by decide)
    simpa [BlockKind.opener] using hboundary
  · have hd : isPathChar d = false := by
      by_contra hd
      have hblank := isBlank_of_isPathChar (Bool.eq_true_of_not_eq_false hd)
      rw [hpre d (by simp)] at hblank
      cases hblank
    have hboundary := hu.append (v ++ BlockKind.expression.opener ++ w) hd
    simpa using hboundary

/-- After a dot, the context of the cursor has the longest path before the dot, and from any place
up to the opener on, it is in an open expression. -/
theorem Text.openPath_of_property {settings : Settings} {t path word : Text} {closed : Bool}
    {pos a lo : Nat} (hpos : pos < t.length)
    (h : t.contextWithin settings (pos + 1) = .property path word closed)
    (hdot : t[pos]? = some '.') (ha : IsLeast {a | (t.lineBefore (pos + 1 : Nat)).2.OpensAt a} a)
    (hlo : lo ≤ (t.lineBefore (pos + 1 : Nat)).1 + a) :
    ∃ u, t.slice lo pos = u ++ path ∧ PathBoundary u ∧ OpenPath (u ++ path) path := by
  obtain ⟨-, -, content, hblock, hdotted⟩ := contextWithin_eq_property_iff.1 h
  have hle : pos + 1 ≤ t.length := hpos
  obtain ⟨head, pre, htake, hlength, hpre, hopen⟩ := take_eq_of_openBlock? hle hblock ha
  obtain ⟨u, s, rfl, hu, hpath, hword, hs, -⟩ := dottedAccess?_sound hdotted
  rw [List.take_add_one, hdot, Option.toList_some] at htake
  have hend : word ++ s = [] := by
    by_contra hne
    obtain ⟨x, c, hx⟩ := (List.eq_nil_or_concat' _).resolve_left hne
    have hlast : t.take pos ++ ['.'] = head ++ BlockKind.expression.opener
        ++ (pre ++ (u ++ (path ++ '.' :: x))) ++ [c] := by
      rw [htake, hx]
      simp
    obtain rfl := List.singleton_inj.1 (List.append_inj' hlast rfl).2
    have hmem : '.' ∈ word ++ s := by simp [hx]
    rcases List.mem_append.1 hmem with hmem | hmem
    · exact absurd (hword _ hmem) (by decide)
    · exact absurd (hs _ hmem) (by decide)
  rw [hend] at htake
  have hbefore : t.take pos = head ++ (BlockKind.expression.opener ++ (pre ++ u) ++ path) := by
    apply List.append_left_injective ['.']
    simpa using htake
  have hslice : t.slice lo pos
      = head.drop lo ++ BlockKind.expression.opener ++ (pre ++ u) ++ path := by
    rw [slice, hbefore, List.drop_append_of_le_length (by omega)]
    simp
  refine ⟨_, hslice, pathBoundary_opener hu _ hpre,
    openPath_append_iff.2 ⟨hpath, _, _, rfl, fun hmem ↦ hopen '}' ?_ (by decide)⟩⟩
  rw [← List.append_assoc]
  exact List.mem_append_left _ hmem

/-- **The two ways to the path before a dot agree.**  The search in the text before the cursor finds
a path exactly if, but for a newline at its end, this text ends with a path in an expression that
no brace has closed, and it finds the longest such path.  It is the path that the context of the
cursor has, if there is a dot just before the cursor and the search goes back as far as the opener
of the block that is open on the line. -/
theorem objectPathBefore?_exact (t : Text) (pos lookback : Int) :
    let window := dropFinalNewline (t.sliceAt (max 0 (pos - lookback)) (pos - 1))
    ((objectPathBefore? t pos lookback).isSome = true ↔ ∃ path, OpenPath window path) ∧
    (∀ path, objectPathBefore? t pos lookback = some path ↔
      OpenPath window path ∧ ∀ other, OpenPath window other → other.length ≤ path.length) ∧
    ∀ settings path word closed a, 1 ≤ pos →
      t.contextAt settings pos = .property path word closed →
      t[(pos - 1).toNat]? = some '.' →
      IsLeast {a | (t.lineBefore pos).2.OpensAt a} a →
      pos - lookback ≤ (t.lineBefore pos).1 + a →
      objectPathBefore? t pos lookback = some path := by
  refine ⟨openExpressionPath?_isSome_iff, fun path ↦ openExpressionPath?_eq_some_iff, ?_⟩
  intro settings path word closed a hpos hcontext hdot ha hlookback
  obtain ⟨n, rfl⟩ : ∃ n : Nat, pos = (n + 1 : Nat) := ⟨(pos - 1).toNat, by omega⟩
  have hn : ((n + 1 : Nat) - 1 : Int).toNat = n := by omega
  rw [hn] at hdot
  have hlt : n < t.length := (List.getElem?_eq_some_iff.1 hdot).1
  rw [Text.contextAt, Text.clamp, Int.toNat_natCast, Nat.min_eq_left hlt] at hcontext
  have hreach : ((n + 1 : Nat) - lookback).toNat ≤ (t.lineBefore (n + 1 : Nat)).1 + a := by omega
  have hlo : max 0 ((n + 1 : Nat) - lookback) = (((n + 1 : Nat) - lookback).toNat : Int) := by omega
  have hhi : ((n + 1 : Nat) - 1 : Int) = n := by omega
  obtain ⟨u, hslice, hu, hopen⟩ := Text.openPath_of_property hlt hcontext hdot ha hreach
  have hwindow : dropFinalNewline (u ++ path) = u ++ path := by
    simpa using dropFinalNewline_append_path (u := u) hopen.isPath (.inl rfl)
  rw [objectPathBefore?, hlo, hhi, Text.sliceAt_natCast, hslice, openExpressionPath?_eq_some_iff,
    hwindow]
  exact ⟨hopen, fun other hother ↦ (hother.isPath.suffix_of_boundary hu hother.suffix).length_le⟩

/-- In `{{ x }}{{{ (a..b.c.` on a second line, the search goes back to the first of the three braces
and no further. -/
theorem objectPathBefore?_exact_braces :
    let t : Text := BlockKind.expression.opener ++ " y\n".toList
      ++ BlockKind.expression.spaced ['x'] ++ '{' :: BlockKind.expression.opener
      ++ " (a..b.c.".toList
    t.contextAt {} 24 = .property "b.c".toList [] false ∧ t[23]? = some '.' ∧
      IsLeast {a | (t.lineBefore 24).2.OpensAt a} 7 ∧
      objectPathBefore? t 24 12 = some "b.c".toList ∧ objectPathBefore? t 24 10 = none := by
  intro t
  have hcontext : t.contextAt {} 24 = .property "b.c".toList [] false := by decide +kernel
  have hdot : t[23]? = some '.' := by decide
  have hfound : leftmostOpen? (t.lineBefore 24).2
      = some (.expression, '{' :: " (a..b.c.".toList) := by decide +kernel
  have hleast : IsLeast {a | (t.lineBefore 24).2.OpensAt a} 7 := by
    obtain ⟨a, hleast, hdrop⟩ := exists_of_leftmostOpen? hfound
    have hlength := congrArg List.length hdrop
    rw [List.length_drop, show (t.lineBefore 24).2.length = 19 by decide +kernel] at hlength
    have ha : a = 7 := by
      simp [BlockKind.opener] at hlength
      omega
    exact ha ▸ hleast
  exact ⟨hcontext, hdot, hleast, (objectPathBefore?_exact t 24 12).2.2 {} _ _ _ 7 (by decide)
    hcontext hdot hleast (by decide +kernel), by decide +kernel⟩

end TemplateAssist
