import TemplateAssist.Cursor.Path
import TemplateAssist.Proofs.Text.Segments
import TemplateAssist.Proofs.Text.Trailing
import TemplateAssist.Proofs.Text.Trim

/-!
# The path before a dot

`dottedAccess?` goes back from the end of a text: over blanks, over the word after the last dot,
and over the names before that dot, up to the first place where a name is missing.  This file says
what it finds without going back: the text can be written as `u`, a path, a dot, a word and blanks,
where nothing at the end of `u` belongs to the path (`PathBoundary`).

* `pathAtEnd_append`, `exists_pathAtEnd` — the longest path at the end of a run of names and dots;
* `dottedAccess?_sound`, `dottedAccess?_complete` — each of the two directions;
* `dottedAccess?_eq_some_iff` — both.
-/

set_option autoImplicit false

namespace TemplateAssist

/-! ## Words and paths -/

/-- A word is one or more word characters. -/
def IsWord (w : Text) : Prop := w ≠ [] ∧ ∀ c ∈ w, isWordChar c = true

instance (w : Text) : Decidable (IsWord w) :=
  decidable_of_iff (w ≠ [] ∧ w.all isWordChar = true) (and_congr_right' List.all_eq_true)

/-- A path is one or more words joined by dots. -/
def IsPath (path : Text) : Prop := ∀ name ∈ path.splitOn '.', IsWord name

/-- A path that starts after this text cannot be made longer to the left: the text ends neither in
a word character, nor in one with a dot after it. -/
def PathBoundary (u : Text) : Prop :=
  ∀ v c, u = v ++ [c] ∨ u = v ++ [c, '.'] → isWordChar c = false

theorem isWordChar_dot : isWordChar '.' = false := by decide

theorem IsWord.dot_not_mem {w : Text} (h : IsWord w) : '.' ∉ w :=
  fun hmem ↦ ne_of_isWordChar (h.2 _ hmem) isWordChar_dot rfl

theorem isPathChar_iff {c : Char} : isPathChar c = true ↔ isWordChar c = true ∨ c = '.' := by
  simp [isPathChar]

theorem IsPath.ne_nil {path : Text} (h : IsPath path) : path ≠ [] := by
  rintro rfl
  exact (h [] List.mem_cons_self).1 rfl

/-- The characters of a path are word characters and dots. -/
theorem IsPath.isPathChar_of_mem {path : Text} (h : IsPath path) :
    ∀ c ∈ path, isPathChar c = true := by
  intro c hc
  by_cases hdot : c = '.'
  · exact isPathChar_iff.2 (.inr hdot)
  · obtain ⟨name, hname, hmem⟩ := (Text.exists_mem_splitOn_iff hdot).2 hc
    exact isPathChar_iff.2 (.inl ((h name hname).2 c hmem))

/-- Neither a path nor a dot after it ends in a blank. -/
theorem isBlank_of_isPathChar {c : Char} (h : isPathChar c = true) : isBlank c = false := by
  rcases isPathChar_iff.1 h with hword | rfl
  · exact isBlank_of_isWordChar hword
  · decide

/-! ## The path at the end of a run -/

/-- The names at the end of a run are those after the last place where a name is missing. -/
theorem pathAtEnd_of_splitOn {run : Text} (before : List Text) {after : List Text}
    (h : run.splitOn '.' = before ++ after) (hbefore : ∀ name ∈ before.getLast?, name = [])
    (hafter : ∀ name ∈ after, name ≠ []) : pathAtEnd run = ['.'].intercalate after := by
  have hnames : ∀ name ∈ after.reverse, (!name.isEmpty) = true := by
    intro name hname
    simpa using hafter name (List.mem_reverse.1 hname)
  have hmissing : before.reverse.takeWhile (!·.isEmpty) = [] := by
    rw [List.getLast?_eq_head?_reverse] at hbefore
    cases hr : before.reverse with
    | nil => rfl
    | cons name rest =>
      have hnil : name = [] := hbefore name (by rw [hr]; rfl)
      simp [hnil]
  rw [pathAtEnd, h, List.reverse_append, List.takeWhile_append_of_pos hnames, hmissing,
    List.append_nil, List.reverse_reverse]

/-- What can stand before the path at the end of a run: nothing, or dots with no name before the
last one. -/
def DotsBefore (r : Text) : Prop := r = [] ∨ ∃ v, r = v ++ ['.'] ∧ (v = [] ∨ ∃ w, v = w ++ ['.'])

theorem pathAtEnd_append {r path : Text} (hr : DotsBefore r)
    (hpath : ∀ name ∈ path.splitOn '.', name ≠ []) : pathAtEnd (r ++ path) = path := by
  have hjoin : ['.'].intercalate (path.splitOn '.') = path := List.intercalate_splitOn '.'
  nth_rewrite 2 [← hjoin]
  rcases hr with rfl | ⟨v, rfl, hv⟩
  · exact pathAtEnd_of_splitOn [] rfl (by simp) hpath
  · refine pathAtEnd_of_splitOn (v.splitOn '.') ?_ ?_ hpath
    · rw [List.append_assoc, List.singleton_append, List.splitOn_append_cons_self]
    · rcases hv with rfl | ⟨w, rfl⟩
      · simp
      · simp [List.splitOn_append_cons_self]

theorem exists_pathAtEnd {run : Text} (h : pathAtEnd run ≠ []) :
    ∃ r, run = r ++ pathAtEnd run ∧ DotsBefore r ∧
      ∀ name ∈ (pathAtEnd run).splitOn '.', name ≠ [] := by
  have hsplit := List.rdropWhile_append_rtakeWhile (p := fun name : Text ↦ !name.isEmpty)
    (l := run.splitOn '.')
  have hpath : pathAtEnd run
      = ['.'].intercalate ((run.splitOn '.').rtakeWhile fun name ↦ !name.isEmpty) := rfl
  have hnames : ∀ name ∈ (run.splitOn '.').rtakeWhile fun name ↦ !name.isEmpty, name ≠ [] :=
    fun name hname ↦ by simpa using List.mem_rtakeWhile_imp hname
  have hlast := List.rdropWhile_last_not (fun name : Text ↦ !name.isEmpty) (run.splitOn '.')
  generalize (run.splitOn '.').rtakeWhile (fun name ↦ !name.isEmpty) = after at *
  generalize (run.splitOn '.').rdropWhile (fun name ↦ !name.isEmpty) = before at *
  have hafter : after ≠ [] := by
    rintro rfl
    exact h hpath
  have hdotFree : ∀ name ∈ after, '.' ∉ name := fun name hname ↦
    Text.not_mem_of_mem_splitOn (by rw [← hsplit]; exact List.mem_append_right _ hname)
  have hrun : run = ['.'].intercalate (before ++ after) := by
    rw [hsplit, List.intercalate_splitOn]
  rw [hpath, List.splitOn_intercalate '.' hdotFree hafter]
  by_cases hbefore : before = []
  · exact ⟨[], by rw [hrun, hbefore]; rfl, .inl rfl, hnames⟩
  · refine ⟨['.'].intercalate before ++ ['.'], ?_, .inr ⟨_, rfl, ?_⟩, hnames⟩
    · rw [hrun, Text.intercalate_append hbefore hafter, List.append_assoc]
      rfl
    · -- The last of the names before the path is the missing one.
      have hnil : before.getLast hbefore = [] := by simpa using hlast hbefore
      rw [← List.dropLast_append_getLast hbefore, hnil]
      by_cases hinit : before.dropLast = []
      · exact .inl (by rw [hinit]; rfl)
      · exact .inr ⟨_, Text.intercalate_append hinit (List.cons_ne_nil _ _)⟩

/-! ## Boundaries -/

theorem isWordChar_of_isPathChar_eq_false {c : Char} (h : isPathChar c = false) :
    isWordChar c = false := by
  rw [isPathChar, Bool.or_eq_false_iff] at h
  exact h.1

theorem eq_dot_of_isPathChar {c : Char} (h : isPathChar c = true) (hword : isWordChar c = false) :
    c = '.' := by
  rcases isPathChar_iff.1 h with hc | hc
  · rw [hword] at hc
    cases hc
  · exact hc

/-- The path at the end of a run is one, unless it is empty. -/
theorem isPath_pathAtEnd {run : Text} (hrun : ∀ c ∈ run, isPathChar c = true)
    (h : pathAtEnd run ≠ []) : IsPath (pathAtEnd run) := by
  obtain ⟨r, heq, -, hnames⟩ := exists_pathAtEnd h
  refine fun name hname ↦ ⟨hnames name hname, fun c hc ↦ ?_⟩
  have hdot : c ≠ '.' := fun hdot ↦ Text.not_mem_of_mem_splitOn hname (hdot ▸ hc)
  have hmem : c ∈ pathAtEnd run := (Text.exists_mem_splitOn_iff hdot).1 ⟨name, hname, hc⟩
  refine (isPathChar_iff.1 (hrun c ?_)).resolve_right hdot
  rw [heq]
  exact List.mem_append_right r hmem

/-- What stands before the run of names and dots at the end of a text, with the dots that do not
belong to the path, ends where a path can start. -/
theorem pathBoundary_append {r : Text} (t : Text) (hr : DotsBefore r) :
    PathBoundary (t.beforeTrailing isPathChar ++ r) := by
  have hlast : ∀ v c, t.beforeTrailing isPathChar = v ++ [c] → isPathChar c = false := by
    intro v c heq
    rcases Text.beforeTrailing_eq_nil_or_concat isPathChar t with hnil | ⟨w, d, hd, hfalse⟩
    · simp [hnil] at heq
    · have hcd : c = d := by simpa using congrArg List.getLast? (heq.symm.trans hd)
      rwa [hcd]
  intro v c hvc
  rcases hr with rfl | ⟨w, rfl, hw⟩
  · rw [List.append_nil] at hvc
    rcases hvc with heq | heq
    · exact isWordChar_of_isPathChar_eq_false (hlast v c heq)
    · have hdot := hlast (v ++ [c]) '.' (by simpa using heq)
      cases hdot
  · rcases hvc with heq | heq
    · obtain rfl : '.' = c := by simpa using congrArg List.getLast? heq
      exact isWordChar_dot
    · have heq : t.beforeTrailing isPathChar ++ w = v ++ [c] := by
        simpa using congrArg List.dropLast heq
      rcases hw with rfl | ⟨w, rfl⟩
      · rw [List.append_nil] at heq
        exact isWordChar_of_isPathChar_eq_false (hlast v c heq)
      · obtain rfl : '.' = c := by simpa using congrArg List.getLast? heq
        exact isWordChar_dot

theorem PathBoundary.dotsBefore {u : Text} (h : PathBoundary u) :
    DotsBefore (u.trailing isPathChar) := by
  have hcut := (Text.beforeTrailing_append_trailing isPathChar u).symm
  have hrun : ∀ c ∈ u.trailing isPathChar, isPathChar c = true := fun c ↦ Text.of_mem_trailing
  generalize u.trailing isPathChar = r at *
  generalize u.beforeTrailing isPathChar = before at *
  rcases List.eq_nil_or_concat' r with rfl | ⟨v, c, rfl⟩
  · exact .inl rfl
  · have hc : c = '.' := eq_dot_of_isPathChar (hrun c (by simp))
      (h (before ++ v) c (.inl (by simpa using hcut)))
    refine .inr ⟨v, by rw [hc], ?_⟩
    rcases List.eq_nil_or_concat' v with rfl | ⟨w, d, rfl⟩
    · exact .inl rfl
    · have hd : d = '.' := eq_dot_of_isPathChar (hrun d (by simp))
        (h (before ++ w) d (.inr (by simpa [hc] using hcut)))
      exact .inr ⟨w, by rw [hd]⟩

/-! ## The path before the last dot -/

theorem dottedAccess?_sound {content path word : Text}
    (h : dottedAccess? content = some (path, word)) :
    ∃ u s, content = u ++ (path ++ '.' :: (word ++ s)) ∧ PathBoundary u ∧ IsPath path ∧
      (∀ c ∈ word, isWordChar c = true) ∧ (∀ c ∈ s, isBlank c = true) ∧ (word = [] ∨ s = []) := by
  have hcontent : content.trimRight ++ content.trailing isBlank = content :=
    Text.beforeTrailing_append_trailing isBlank content
  have hstripped := Text.beforeTrailing_append_trailing isPathChar content.trimRight
  have hrun : ∀ c ∈ content.trimRight.trailing isPathChar, isPathChar c = true :=
    fun c ↦ Text.of_mem_trailing
  simp only [dottedAccess?] at h
  generalize content.trimRight.trailing isPathChar = run at *
  have hsplit := Text.beforeTrailing_append_trailing (· ≠ '.') run
  have hword : ∀ c ∈ run.trailing (· ≠ '.'), c ≠ '.' := fun c hc ↦ by
    simpa using Text.of_mem_trailing hc
  split at h
  · cases h
  · next hsome =>
    simp only [not_or] at hsome
    obtain ⟨hlength, hblanks, hpath⟩ := hsome
    obtain ⟨rfl, rfl⟩ := Prod.mk.inj (Option.some.inj h)
    rcases Text.beforeTrailing_eq_nil_or_concat (· ≠ '.') run with hnil | ⟨v, c, heq, hc⟩
    · rw [hnil, List.nil_append] at hsplit
      exact absurd (congrArg List.length hsplit) hlength
    · obtain rfl : c = '.' := by simpa using hc
      rw [heq, List.dropLast_concat] at hpath ⊢
      rw [heq] at hsplit
      have hv : ∀ d ∈ v, isPathChar d = true := by
        intro d hd
        refine hrun d ?_
        rw [← hsplit]
        simp [hd]
      obtain ⟨r, heq, hr, -⟩ := exists_pathAtEnd hpath
      refine ⟨content.trimRight.beforeTrailing isPathChar ++ r, content.trailing isBlank, ?_,
        pathBoundary_append _ hr, isPath_pathAtEnd hv hpath, fun d hd ↦ ?_,
        fun d hd ↦ Text.mem_trailing_blank hd, ?_⟩
      · nth_rewrite 1 [← hcontent, ← hstripped, ← hsplit, heq]
        simp only [List.append_assoc, List.cons_append, List.nil_append]
      · have hmem : d ∈ run := by
          rw [← hsplit]
          exact List.mem_append_right _ hd
        exact (isPathChar_iff.1 (hrun d hmem)).resolve_right (hword d hd)
      · by_cases hnil : run.trailing (· ≠ '.') = []
        · exact .inl hnil
        · refine .inr (List.length_eq_zero_iff.1 ?_)
          have hequal := not_not.1 fun hne ↦ hblanks ⟨hnil, hne⟩
          have hsum := congrArg List.length hcontent
          rw [List.length_append] at hsum
          omega

theorem dottedAccess?_complete {u path word s : Text} (hu : PathBoundary u) (hpath : IsPath path)
    (hword : ∀ c ∈ word, isWordChar c = true) (hs : ∀ c ∈ s, isBlank c = true)
    (hend : word = [] ∨ s = []) :
    dottedAccess? (u ++ (path ++ '.' :: (word ++ s))) = some (path, word) := by
  have hpathChar : ∀ c ∈ '.' :: word, isPathChar c = true := by
    intro c hc
    rcases List.mem_cons.1 hc with rfl | hc
    · rfl
    · exact isPathChar_iff.2 (.inl (hword c hc))
  have hstripped : Text.trimRight (u ++ (path ++ '.' :: (word ++ s)))
      = u ++ path ++ '.' :: word := by
    have hsplit : u ++ (path ++ '.' :: (word ++ s)) = u ++ path ++ '.' :: word ++ s := by simp
    rw [hsplit, Text.trimRight_append_of_blank _ hs]
    exact Text.trimRight_append_of_not_blank _ (List.cons_ne_nil _ _) fun c hc ↦
      isBlank_of_isPathChar (hpathChar c hc)
  have hrun : Text.trailing isPathChar (u ++ path ++ '.' :: word)
      = u.trailing isPathChar ++ path ++ ['.'] ++ word := by
    rw [Text.trailing_append _ hpathChar, Text.trailing_append _ hpath.isPathChar_of_mem]
    simp
  have hne : ∀ c ∈ word, decide (c ≠ '.') = true := fun c hc ↦
    decide_eq_true (ne_of_isWordChar (hword c hc) isWordChar_dot)
  have hfound : pathAtEnd (u.trailing isPathChar ++ path) = path :=
    pathAtEnd_append hu.dotsBefore fun name hname ↦ (hpath name hname).1
  have hdots : ∀ v : Text, Text.trailing (· ≠ '.') (v ++ ['.'] ++ word) = word ∧
      Text.beforeTrailing (· ≠ '.') (v ++ ['.'] ++ word) = v ++ ['.'] := by
    intro v
    rw [Text.trailing_append _ hne, Text.beforeTrailing_append _ hne]
    exact ⟨congrArg (· ++ word) (Text.trailing_concat v rfl), Text.beforeTrailing_concat v rfl⟩
  simp only [dottedAccess?, hstripped, hrun, hdots, List.dropLast_concat, hfound]
  rw [if_neg]
  rintro (hlength | ⟨hnil, hlength⟩ | hnil)
  · simp only [List.length_append, List.length_cons, List.length_nil] at hlength
    omega
  · exact hlength (by simp [hend.resolve_left hnil])
  · exact hpath.ne_nil hnil

/-- **The path before the last dot** is found exactly where the text ends with a path, a dot and
perhaps a word or blanks, and it is the longest path there. -/
theorem dottedAccess?_eq_some_iff {content path word : Text} :
    dottedAccess? content = some (path, word) ↔
      ∃ u s, content = u ++ (path ++ '.' :: (word ++ s)) ∧ PathBoundary u ∧ IsPath path ∧
        (∀ c ∈ word, isWordChar c = true) ∧ (∀ c ∈ s, isBlank c = true) ∧
        (word = [] ∨ s = []) := by
  constructor
  · exact dottedAccess?_sound
  · rintro ⟨u, s, rfl, hu, hpath, hword, hs, hend⟩
    exact dottedAccess?_complete hu hpath hword hs hend

end TemplateAssist
