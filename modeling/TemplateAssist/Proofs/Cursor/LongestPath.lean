import TemplateAssist.Proofs.Cursor.OpenPath

/-!
# The longest path before the last dot

A text that ends with a path, a dot and the beginning of a word can be cut in many ways: in `a.b.c`
the path before the last dot is `a.b`, or only `b`.  `DottedEnd` has all of these ways, and
`dottedAccess?` gives one of them.

* `DottedEnd.unique` — the last dot is the same in all of them, and so is what comes after it;
* `DottedEnd.exists_boundary` — in one of them, nothing before the path belongs to it;
* `DottedEnd.boundary_iff_longest` — this is the one with the longest path;
* `dottedAccess?_longest` — and the one that is found, whenever there is any.
-/

set_option autoImplicit false

namespace TemplateAssist

/-- The text is `u`, a path, a dot, a word and blanks, in this order.  The word and the blanks may
be empty, and one of them is. -/
structure DottedEnd (content u path word blanks : Text) : Prop where
  eq : content = u ++ (path ++ '.' :: (word ++ blanks))
  names : ∃ names ≠ [], (∀ name ∈ names, IsWord name) ∧ path = ['.'].intercalate names
  isWordChar_of_mem : ∀ c ∈ word, isWordChar c = true
  isBlank_of_mem : ∀ c ∈ blanks, isBlank c = true
  alone : word = [] ∨ blanks = []

theorem isPath_iff_exists_names {path : Text} : IsPath path ↔
    ∃ names ≠ [], (∀ name ∈ names, IsWord name) ∧ path = ['.'].intercalate names := by
  constructor
  · intro h
    exact ⟨_, List.splitOn_ne_nil '.' path, h, (List.intercalate_splitOn '.').symm⟩
  · rintro ⟨names, hne, hnames, rfl⟩
    have hdot : ∀ name ∈ names, '.' ∉ name := fun name hname ↦ (hnames name hname).dot_not_mem
    rwa [IsPath, List.splitOn_intercalate '.' hdot hne]

namespace DottedEnd

variable {content u path word blanks v other word' blanks' : Text}

theorem isPath (h : DottedEnd content u path word blanks) : IsPath path :=
  isPath_iff_exists_names.2 h.names

/-- Another path before the same dot. -/
theorem with_path (h : DottedEnd content u path word blanks) (heq : v ++ other = u ++ path)
    (hother : IsPath other) : DottedEnd content v other word blanks := by
  refine ⟨?_, isPath_iff_exists_names.1 hother, h.isWordChar_of_mem, h.isBlank_of_mem, h.alone⟩
  rw [h.eq, ← List.append_assoc, ← heq, List.append_assoc]

/-- What comes after the last dot. -/
theorem trailing_eq (h : DottedEnd content u path word blanks) :
    content.trailing (· ≠ '.') = word ++ blanks := by
  have hdot : '.' ∉ word ++ blanks := by
    intro hmem
    rcases List.mem_append.1 hmem with hmem | hmem
    · exact absurd (h.isWordChar_of_mem _ hmem) (by decide)
    · exact absurd (h.isBlank_of_mem _ hmem) (by decide)
  have hsplit : content = u ++ path ++ ['.'] ++ (word ++ blanks) := by
    rw [h.eq]
    simp
  rw [hsplit, Text.trailing_append_of_not_mem _ hdot, Text.trailing_concat _ rfl, List.nil_append]

theorem trimRight_eq (h : DottedEnd content u path word blanks) :
    Text.trimRight (word ++ blanks) = word := by
  rw [Text.trimRight_append_of_blank _ h.isBlank_of_mem]
  exact Text.trimRight_of_not_blank fun c hc ↦ isBlank_of_isWordChar (h.isWordChar_of_mem c hc)

/-- There is one last dot, with one word after it. -/
theorem unique (h : DottedEnd content u path word blanks)
    (h' : DottedEnd content v other word' blanks') :
    word' = word ∧ blanks' = blanks ∧ v ++ other = u ++ path := by
  have hend : word' ++ blanks' = word ++ blanks := h'.trailing_eq.symm.trans h.trailing_eq
  have hword : word' = word := by rw [← h'.trimRight_eq, hend, h.trimRight_eq]
  have htext : v ++ other ++ '.' :: (word' ++ blanks') = u ++ path ++ '.' :: (word ++ blanks) := by
    rw [List.append_assoc, List.append_assoc, ← h'.eq, ← h.eq]
  rw [hend] at htext
  subst hword
  exact ⟨rfl, List.append_cancel_left hend, List.append_cancel_right htext⟩

/-- One of the paths before the last dot cannot be made longer. -/
theorem exists_boundary (h : DottedEnd content u path word blanks) :
    ∃ v other, DottedEnd content v other word blanks ∧ PathBoundary v := by
  obtain ⟨v, heq, hv, hlast⟩ :=
    Text.exists_eq_append_lastPath (Text.lastPath_ne_nil h.isPath (List.suffix_append u path))
  exact ⟨v, _, h.with_path heq.symm hlast, hv⟩

/-- Each path before the last dot is a part of the one that cannot be made longer. -/
theorem suffix_of_boundary (h : DottedEnd content u path word blanks) (hu : PathBoundary u)
    (h' : DottedEnd content v other word' blanks') : other <:+ path := by
  obtain ⟨-, -, heq⟩ := h.unique h'
  exact h'.isPath.suffix_of_boundary hu ⟨v, heq⟩

/-- **The path that cannot be made longer is the longest** of those before the last dot. -/
theorem boundary_iff_longest (h : DottedEnd content u path word blanks) :
    PathBoundary u ↔ ∀ v other word' blanks', DottedEnd content v other word' blanks' →
      other.length ≤ path.length := by
  constructor
  · intro hu v other word' blanks' h'
    exact (h.suffix_of_boundary hu h').length_le
  · intro hlongest
    obtain ⟨v, other, h', hv⟩ := h.exists_boundary
    have hsuffix : path <:+ other := h'.suffix_of_boundary hv h
    obtain rfl : path = other := hsuffix.eq_of_length_le (hlongest _ _ _ _ h')
    obtain ⟨-, -, heq⟩ := h.unique h'
    rwa [← List.append_cancel_right heq]

end DottedEnd

theorem dottedAccess?_eq_some_iff_dottedEnd {content path word : Text} :
    dottedAccess? content = some (path, word) ↔
      ∃ u blanks, DottedEnd content u path word blanks ∧ PathBoundary u := by
  rw [dottedAccess?_eq_some_iff]
  constructor
  · rintro ⟨u, s, heq, hu, hpath, hword, hs, hend⟩
    exact ⟨u, s, ⟨heq, isPath_iff_exists_names.1 hpath, hword, hs, hend⟩, hu⟩
  · rintro ⟨u, s, h, hu⟩
    exact ⟨u, s, h.eq, hu, h.isPath, h.isWordChar_of_mem, h.isBlank_of_mem, h.alone⟩

/-- **The path before the last dot is found exactly if there is one, and it is the longest.**  Some
path and word are found exactly if the text can be cut into something, a path, a dot, a word and
blanks, where the word or the blanks are empty.  They are those of a cut in which what stands before
the path ends neither in a word character nor in one with a dot after it.  All cuts have the same
word and the same blanks, and a cut has the longest path among them exactly if it is this one. -/
theorem dottedAccess?_longest (content : Text) :
    ((dottedAccess? content).isSome = true ↔
      ∃ u path word blanks, DottedEnd content u path word blanks) ∧
    (∀ path word, dottedAccess? content = some (path, word) ↔
      ∃ u blanks, DottedEnd content u path word blanks ∧ PathBoundary u) ∧
    ∀ u path word blanks, DottedEnd content u path word blanks →
      (∀ v other word' blanks', DottedEnd content v other word' blanks' →
        word' = word ∧ blanks' = blanks) ∧
      (PathBoundary u ↔ ∀ v other word' blanks', DottedEnd content v other word' blanks' →
        other.length ≤ path.length) := by
  refine ⟨?_, fun path word ↦ dottedAccess?_eq_some_iff_dottedEnd, ?_⟩
  · constructor
    · intro h
      obtain ⟨⟨path, word⟩, hfound⟩ := Option.isSome_iff_exists.1 h
      obtain ⟨u, blanks, hend, -⟩ := dottedAccess?_eq_some_iff_dottedEnd.1 hfound
      exact ⟨u, path, word, blanks, hend⟩
    · rintro ⟨u, path, word, blanks, hend⟩
      obtain ⟨v, other, hother, hv⟩ := hend.exists_boundary
      rw [dottedAccess?_eq_some_iff_dottedEnd.2 ⟨v, blanks, hother, hv⟩]
      rfl
  · intro u path word blanks hend
    refine ⟨fun v other word' blanks' hother ↦ ?_, hend.boundary_iff_longest⟩
    obtain ⟨hword, hblanks, -⟩ := hend.unique hother
    exact ⟨hword, hblanks⟩

/-- In `f(a..b.c.` with a no-break space at its end, `c` is a path before the last dot, and `b.c` is
the longest: before the dot that comes before it, a name is missing. -/
theorem dottedAccess?_longest_missingName :
    let content := "f(a..b.c.\u00a0".toList
    DottedEnd content "f(a..".toList "b.c".toList [] ['\u00a0'] ∧
      DottedEnd content "f(a..b.".toList "c".toList [] ['\u00a0'] ∧
      PathBoundary "f(a..".toList ∧ ¬ PathBoundary "f(a..b.".toList ∧
      dottedAccess? content = some ("b.c".toList, []) := by
  intro content
  have hblank : ∀ c ∈ ['\u00a0'], isBlank c = true := List.forall_mem_singleton.2 (by decide)
  have hlong : DottedEnd content "f(a..".toList "b.c".toList [] ['\u00a0'] :=
    ⟨by decide, ⟨["b".toList, "c".toList], by decide⟩, by simp, hblank, .inl rfl⟩
  have hshort : DottedEnd content "f(a..b.".toList "c".toList [] ['\u00a0'] :=
    ⟨by decide, ⟨["c".toList], by decide⟩, by simp, hblank, .inl rfl⟩
  have hboundary : PathBoundary "f(a..".toList := by
    have hcut := pathBoundary_append "f(".toList (r := "a..".toList)
      (.inr ⟨"a.".toList, rfl, .inr ⟨"a".toList, rfl⟩⟩)
    rwa [show Text.beforeTrailing isPathChar "f(".toList = "f(".toList by decide] at hcut
  obtain ⟨-, hfound, hcuts⟩ := dottedAccess?_longest content
  refine ⟨hlong, hshort, hboundary, fun h ↦ ?_, (hfound _ _).2 ⟨_, _, hlong, hboundary⟩⟩
  have hle := (hcuts _ _ _ _ hshort).2.1 h _ _ _ _ hlong
  exact absurd hle (by decide)

end TemplateAssist
