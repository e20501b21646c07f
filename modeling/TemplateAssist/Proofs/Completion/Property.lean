import TemplateAssist.Proofs.Cursor.Neighbourhood
import TemplateAssist.Proofs.Variable.Listing
import TemplateAssist.Settings.Form

/-!
# Completing a property

After a path and a dot, a completion offers the children of the object at the path.  This file says
which ones, what an accepted one replaces, and that accepting one leaves the cursor where the same
path completes to it.

* `openBlock?_retype`, `Text.contextWithin_retype` — typing another word in place of the one after
  the dot changes nothing else in the context;
* `complete_of_property` — the completion is that of the children, and replaces the word;
* `Settings.maxCandidates_le` — settings that were read allow `candidateCap` candidates at most;
* `VariableTree.get?_child` — the path of a child leads to it;
* `complete_property` — all of it, for every text and every tree.
-/

set_option autoImplicit false

namespace TemplateAssist

/-! ## Typing another word -/

theorem not_mem_of_isWordChar {c : Char} {signs : List Char} (hc : isWordChar c = true)
    (h : signs.all (!isWordChar ·) = true) : c ∉ signs := by
  intro hmem
  have hsign := List.all_eq_true.1 h c hmem
  rw [hc] at hsign
  cases hsign

theorem isBlocking_of_isWordChar {c : Char} (h : isWordChar c = true) : isBlocking c = false := by
  have hsigns : c ∉ ['}', '%', '#'] := not_mem_of_isWordChar h (by decide)
  simpa [isBlocking, and_assoc] using hsigns

theorem opening?_brace_eq_none {d : Char} (rest : Text) (h : d ∉ ['{', '%', '#']) :
    BlockKind.opening? ('{' :: d :: rest) = none := by
  unfold BlockKind.opening?
  split <;> simp_all

/-- A word at the end of a text is part of no opener. -/
theorem opening?_append_word (c : Char) (v : Text) {word : Text}
    (hword : ∀ d ∈ word, isWordChar d = true) :
    BlockKind.opening? (c :: (v ++ word))
      = (BlockKind.opening? (c :: v)).map fun found ↦ (found.1, found.2 ++ word) := by
  by_cases hc : c = '{'
  · subst hc
    cases v with
    | nil =>
      cases word with
      | nil => rfl
      | cons d word =>
        refine opening?_brace_eq_none word ?_
        exact not_mem_of_isWordChar (hword d List.mem_cons_self) (by decide)
    | cons d v =>
      by_cases hd : d ∈ ['{', '%', '#']
      · rcases List.mem_cons.1 hd with rfl | hd
        · rfl
        · rcases List.mem_cons.1 hd with rfl | hd
          · rfl
          · rw [List.mem_singleton.1 hd]
            rfl
      · rw [List.cons_append, opening?_brace_eq_none _ hd, opening?_brace_eq_none _ hd]
        rfl
  · rw [BlockKind.opening?_cons_eq_none _ hc, BlockKind.opening?_cons_eq_none _ hc]
    rfl

theorem firstOpener?_word {word : Text} (hword : ∀ d ∈ word, isWordChar d = true) :
    firstOpener? word = none := by
  induction word with
  | nil => rfl
  | cons d word ih =>
    obtain ⟨hd, hword⟩ := List.forall_mem_cons.1 hword
    have hbrace : d ≠ '{' := ne_of_isWordChar hd (by decide)
    rw [firstOpener?, BlockKind.opening?_cons_eq_none _ hbrace, ih hword]
    rfl

theorem firstOpener?_append_word (v : Text) {word : Text}
    (hword : ∀ d ∈ word, isWordChar d = true) :
    firstOpener? (v ++ word) = (firstOpener? v).map fun found ↦ (found.1, found.2 ++ word) := by
  induction v with
  | nil => exact firstOpener?_word hword
  | cons c v ih =>
    rw [List.cons_append, firstOpener?, firstOpener?, opening?_append_word c v hword, ih]
    cases BlockKind.opening? (c :: v) <;> rfl

theorem openBlock?_append_word (v : Text) {word : Text}
    (hword : ∀ d ∈ word, isWordChar d = true) :
    openBlock? (v ++ word)
      = (firstOpener? (v.drop (v.length - (Text.trailing (!isBlocking ·) v).length - 2))).map
          fun found ↦ (found.1, Text.trimLeft (found.2 ++ word)) := by
  have hplain : ∀ c ∈ word, (!isBlocking c) = true := fun c hc ↦ by
    rw [isBlocking_of_isWordChar (hword c hc)]
    rfl
  have hstart : (v ++ word).length - (Text.trailing (!isBlocking ·) v ++ word).length - 2
      = v.length - (Text.trailing (!isBlocking ·) v).length - 2 := by
    rw [List.length_append, List.length_append]
    omega
  rw [openBlock?, Text.trailing_append v hplain, hstart,
    List.drop_append_of_le_length (by omega), firstOpener?_append_word _ hword, Option.map_map]
  rfl

/-- The open block of a line stays open when another word is typed at its end. -/
theorem openBlock?_retype {v content typed word : Text} {kind : BlockKind}
    (h : openBlock? (v ++ typed) = some (kind, content ++ typed)) (hcontent : content ≠ [])
    (htyped : ∀ c ∈ typed, isWordChar c = true) (hword : ∀ c ∈ word, isWordChar c = true) :
    openBlock? (v ++ word) = some (kind, content ++ word) := by
  rw [openBlock?_append_word v htyped] at h
  obtain ⟨⟨kind', rest⟩, hfirst, heq⟩ := Option.map_eq_some_iff.1 h
  obtain ⟨rfl, htrim⟩ := Prod.mk.inj heq
  rw [openBlock?_append_word v hword, hfirst, Option.map_some]
  by_cases hnil : rest.trimLeft = []
  · -- then nothing but blanks stood before the word
    rw [Text.trimLeft_append_of_blank _ (List.dropWhile_eq_nil_iff.1 hnil)] at htrim
    have hle := (Text.trimLeft_suffix typed).length_le
    rw [htrim, List.length_append] at hle
    exact absurd (List.length_eq_zero_iff.1 (by omega)) hcontent
  · rw [Text.trimLeft_append _ hnil] at htrim ⊢
    rw [List.append_cancel_right htrim]

namespace Text

variable {head typed word rest path : Text} {settings : Settings} {closed : Bool}

theorem lineBefore_append (head rest : Text) {word : Text}
    (hword : ∀ c ∈ word, isWordChar c = true) :
    ((head ++ word ++ rest).lineBefore (head ++ word).length).2
      = trailing (· ≠ '\n') head ++ word := by
  have hle : (head ++ word).length ≤ (head ++ word ++ rest).length := by simp
  rw [lineBefore_natCast hle, List.take_left, trailing_append]
  exact fun c hc ↦ decide_eq_true (ne_of_isWordChar (hword c hc) (by decide))

theorem closerAhead_append (settings : Settings) (u rest : Text) (kind : BlockKind) :
    closerAhead settings (u ++ rest) u.length kind
      = includes (rest.take settings.closingLookahead) kind.closer := by
  rw [closerAhead, slice, List.take_length_add_append, List.drop_left]

/-- What has been typed in the open block stands right before the cursor. -/
theorem content_suffix_take {t content : Text} {pos : Nat} {kind : BlockKind}
    (hpos : pos ≤ t.length) (h : openBlock? (t.lineBefore pos).2 = some (kind, content)) :
    content <:+ t.take pos := by
  rw [lineBefore_natCast hpos] at h
  exact (openBlock?_suffix h).trans (List.rtakeWhile_suffix _ _)

/-- **Another word after the dot.**  If the cursor stands in or right after a word that follows a
path and a dot, and another word is typed in its place, the cursor stands after the same path and in
that word. -/
theorem contextWithin_retype
    (h : (head ++ typed ++ rest).contextWithin settings (head ++ typed).length
      = .property path typed closed)
    (hlast : ∀ c ∈ (head ++ typed).getLast?, isBlank c = false)
    (hword : ∀ c ∈ word, isWordChar c = true) :
    (head ++ word ++ rest).contextWithin settings (head ++ word).length
      = .property path word closed := by
  obtain ⟨-, hclosed, content, hopen, hdotted⟩ := contextWithin_eq_property_iff.1 h
  obtain ⟨u, s, hcontent, hu, hpath, htyped, hs, -⟩ := dottedAccess?_eq_some_iff.1 hdotted
  have hnil : s = [] := by
    have hsuffix := content_suffix_take (by simp) hopen
    rw [List.take_left, hcontent] at hsuffix
    obtain ⟨before, hbefore⟩ := hsuffix
    rcases List.eq_nil_or_concat' s with hs' | ⟨v, c, rfl⟩
    · exact hs'
    · have hend : head ++ typed = before ++ u ++ path ++ '.' :: (typed ++ v) ++ [c] := by
        rw [← hbefore]
        simp
      have hblank : isBlank c = true := hs c (by simp)
      have hc : isBlank c = false := hlast c (by rw [hend, List.getLast?_concat]; rfl)
      rw [hblank] at hc
      cases hc
  rw [lineBefore_append head rest htyped] at hopen
  rw [closerAhead_append] at hclosed
  have hcontent : content = u ++ path ++ ['.'] ++ typed := by simp [hcontent, hnil]
  rw [hcontent] at hopen
  -- the line before the word ends in the dot
  obtain ⟨before, hbefore⟩ := openBlock?_suffix hopen
  have hdot : trailing (· ≠ '\n') head = before ++ (u ++ path) ++ ['.'] := by
    rw [← List.append_assoc] at hbefore
    rw [← List.append_cancel_right hbefore, List.append_assoc before]
  refine contextWithin_eq_property_iff.2 ⟨?_, ?_, u ++ path ++ ['.'] ++ word, ?_, ?_⟩
  · rw [lineBefore_append head rest hword, hdot, loneBrace?_append_word _ isWordChar_dot hword,
      trailing_concat _ (by decide), if_neg (by decide)]
  · rw [closerAhead_append, hclosed]
  · rw [lineBefore_append head rest hword]
    exact openBlock?_retype hopen (by simp) htyped hword
  · exact dottedAccess?_eq_some_iff.2 ⟨u, [], by simp, hu, hpath, hword, by simp, .inr rfl⟩

end Text

/-! ## How many candidates -/

theorem Checked.apply_eq_ok_iff {α β : Type} {f : Checked (α → β)} {x : Checked α} {b : β} :
    f.apply x = .ok b ↔ ∃ g a, f = .ok g ∧ x = .ok a ∧ g a = b := by
  cases f <;> cases x <;> simp [Checked.apply]

/-- Settings that were read allow no more candidates than the cap. -/
theorem Settings.maxCandidates_le {fields : Fields} {settings : Settings}
    (h : Settings.ofFields fields = .ok settings) : settings.maxCandidates ≤ candidateCap := by
  simp only [ofFields, Checked.apply_eq_ok_iff] at h
  obtain ⟨_, _, ⟨_, _, ⟨_, _, ⟨_, count, ⟨_, _, ⟨_, _, ⟨_, _, hmk, -, rfl⟩, -, rfl⟩, -, rfl⟩,
    hcount, rfl⟩, -, rfl⟩, -, rfl⟩, -, rfl⟩ := h
  obtain rfl := Except.ok.inj hmk
  cases hread : fields.read "max_candidates" candidateCap (Reading.natFrom 1) with
  | error issues =>
    rw [hread] at hcount
    cases hcount
  | ok n =>
    rw [hread] at hcount
    obtain rfl := Except.ok.inj hcount
    exact Nat.min_le_right n candidateCap

/-! ## The candidates of a property -/

/-- The path of a child leads to it. -/
theorem VariableTree.get?_child {tree : VariableTree} {path name : Text} {node : Node}
    (hnodup : (tree.childrenAt path).names.Nodup) (h : (name, node) ∈ tree.childrenAt path)
    (hname : '.' ∉ name) : tree.get? (path ++ '.' :: name) = some node := by
  have hget := Children.get?_of_mem hnodup h
  have hnames : pathNames name = [name] := List.splitOn_eq_singleton hname
  rw [get?, pathNames_append, Node.find?_append, hnames]
  change (tree.get? path).bind _ = _
  cases hpath : tree.get? path with
  | none =>
    rw [childrenAt, hpath] at h
    cases h
  | some parent =>
    rw [childrenAt, hpath, Option.map_some, Option.getD_some] at hget
    rw [Option.bind_some, Node.find?_cons, hget]
    rfl

theorem dotBefore_iff {t : Text} {cursor : Nat} (h : cursor ≤ t.length) :
    dotBefore t cursor = true ↔ (t.take cursor).getLast? = some '.' := by
  rw [dotBefore, List.getLast?_take]
  by_cases hzero : cursor = 0
  · simp [hzero]
  · have hlt : cursor - 1 < t.length := by omega
    simp [hzero, Nat.pos_of_ne_zero hzero, List.getElem?_eq_getElem hlt]

/-- After a path and a dot, what is offered are the children of the object at the path that match
the word after the dot. -/
theorem complete_of_property {settings : Settings} {t path typed : Text} {pos : Int} {closed : Bool}
    (tree : VariableTree) (h : t.contextAt settings pos = .property path typed closed) :
    complete settings tree t pos = Completion.offer settings (dotBefore t (t.clamp pos)) typed
      (tree.properties path) ⟨t.clamp pos - typed.length, t.clamp pos⟩ := by
  have hcontext : t.contextWithin settings (t.clamp pos) = .property path typed closed := h
  -- the fallback for a dot is not for a path that was found already
  have hnone : (if dotBefore t (t.clamp pos) then
      Completion.dotPath? settings t (t.clamp pos) (.property path typed closed) else none)
        = none := ite_self none
  rw [Completion.complete_eq_inContext, hcontext]
  show Completion.inContext settings tree t (t.clamp pos) (.property path typed closed) = _
  rw [Completion.inContext, hnone]
  rfl

/-- The word after the dot stands right before the cursor. -/
theorem Text.typed_suffix_take {settings : Settings} {t path typed : Text} {pos : Nat}
    {closed : Bool} (hpos : pos ≤ t.length)
    (h : t.contextWithin settings pos = .property path typed closed) : typed <:+ t.take pos := by
  obtain ⟨-, -, content, hopen, hdotted⟩ := contextWithin_eq_property_iff.1 h
  obtain ⟨u, s, hcontent, -, -, -, -, hend⟩ := dottedAccess?_eq_some_iff.1 hdotted
  rcases hend with rfl | rfl
  · exact List.nil_suffix
  · refine List.IsSuffix.trans ⟨u ++ path ++ ['.'], ?_⟩ (content_suffix_take hpos hopen)
    simp [hcontent]

/-! ## Accepting a candidate -/

/-- A text with other characters in place of those that a span covers. -/
def Text.replace (t : Text) (span : Span Nat) (word : Text) : Text :=
  t.take span.start ++ word ++ t.drop span.stop

/-- With another word in place of the one after the dot, and the cursor after it, the cursor stands
after the same path. -/
theorem Text.contextAt_replace {settings : Settings} {t path typed word : Text} {pos : Int}
    {closed : Bool} (h : t.contextAt settings pos = .property path typed closed)
    (hlast : ∀ c ∈ (t.take (t.clamp pos)).getLast?, isBlank c = false)
    (hword : ∀ c ∈ word, isWordChar c = true) :
    (t.replace ⟨t.clamp pos - typed.length, t.clamp pos⟩ word).contextAt settings
      (t.clamp pos - typed.length + word.length : Nat) = .property path word closed := by
  have hcursor : t.clamp pos ≤ t.length := t.clamp_le pos
  have hcut := List.suffix_iff_eq_append.1 (typed_suffix_take hcursor h)
  rw [List.length_take_of_le hcursor, List.take_take, Nat.min_eq_left (Nat.sub_le _ _)] at hcut
  rw [contextAt] at h
  rw [contextAt, replace]
  generalize t.clamp pos = cursor at *
  have hwhole : t.take (cursor - typed.length) ++ typed ++ t.drop cursor = t := by
    rw [hcut, List.take_append_drop]
  have hlength : (t.take (cursor - typed.length) ++ typed).length = cursor := by
    rw [hcut, List.length_take_of_le hcursor]
  have hend : clamp (t.take (cursor - typed.length) ++ word ++ t.drop cursor)
      (cursor - typed.length + word.length : Nat)
        = (t.take (cursor - typed.length) ++ word).length := by
    rw [clamp, Int.toNat_natCast, List.length_append, List.length_append,
      List.length_take_of_le (by omega)]
    omega
  rw [hend]
  have hbefore : contextWithin settings (t.take (cursor - typed.length) ++ typed ++ t.drop cursor)
      (t.take (cursor - typed.length) ++ typed).length = .property path typed closed := by
    rw [hwhole, hlength, h]
  exact contextWithin_retype hbefore (by rwa [hcut]) hword

/-- The candidate for a child of an object. -/
def Candidate.ofChild (child : Text × Node) : Candidate where
  label := child.1
  kind := if child.2.isObject then .variable else .property
  insertion := child.1
  detail := child.2.detail

/-- **Completing after a path and a dot.**  The candidates are the first children of the object at
the path whose names start with what was typed, in either case of letters, and what they replace is
just that.  After accepting one whose name is a word, the cursor stands after the same path, and the
path with the name leads to that child, since an object has no two children of one name. -/
theorem complete_property {settings : Settings} {tree : VariableTree} {t path typed : Text}
    {pos : Int} {closed : Bool} (h : t.contextAt settings pos = .property path typed closed) :
    let before := t.take (t.clamp pos)
    let found := (tree.childrenAt path).filter fun child ↦ typed.lower.isPrefixOf child.1.lower
    (complete settings tree t pos = none ↔ found = [] ∧ before.getLast? ≠ some '.') ∧
    ∀ completion, complete settings tree t pos = some completion →
      completion.candidates = (found.take settings.maxCandidates).map Candidate.ofChild ∧
      (∀ fields, Settings.ofFields fields = .ok settings → completion.candidates.length ≤ 20) ∧
      completion.span.of t = typed ∧ completion.span.stop = t.clamp pos ∧
      ∀ name node, (name, node) ∈ found.take settings.maxCandidates → IsWord name →
        (∀ c ∈ before.getLast?, isBlank c = false) →
        (t.replace completion.span name).contextAt settings
            (completion.span.start + name.length : Nat) = .property path name closed ∧
          ((tree.childrenAt path).names.Nodup →
            tree.get? (path ++ '.' :: name) = some node) := by
  intro before found
  have hcursor : t.clamp pos ≤ t.length := t.clamp_le pos
  have hfound : (tree.properties path).filter (·.isMatch typed) = found.map Candidate.ofChild :=
    List.filter_map
  have hdot : dotBefore t (t.clamp pos) = true ↔ before.getLast? = some '.' :=
    dotBefore_iff hcursor
  rw [complete_of_property tree h, Completion.offer, hfound]
  constructor
  · simp [← hdot]
  · intro completion hcompletion
    obtain ⟨-, hsome⟩ := Option.ite_none_left_eq_some.1 hcompletion
    obtain rfl := Option.some.inj hsome
    refine ⟨List.map_take.symm, ?_, ?_, rfl, ?_⟩
    · intro fields hfields
      have hcap := Settings.maxCandidates_le hfields
      rw [List.length_take]
      exact (Nat.min_le_left _ _).trans hcap
    · have hdrop := List.suffix_iff_eq_drop.1 (Text.typed_suffix_take hcursor h)
      rw [List.length_take_of_le hcursor] at hdrop
      exact hdrop.symm
    · intro name node hmem hname hlast
      refine ⟨Text.contextAt_replace h hlast hname.2, fun hnodup ↦ ?_⟩
      have hchild : (name, node) ∈ tree.childrenAt path :=
        List.mem_of_mem_filter (List.mem_of_mem_take hmem)
      exact VariableTree.get?_child hnodup hchild hname.dot_not_mem

/-- In `{{ a..news.HE }}`, with the cursor after the `E`: the path starts after the empty name. -/
theorem complete_property_headline :
    let t : Text := BlockKind.expression.spaced "a..news.HE".toList
    let tree := VariableTree.builtin
    let headline : Text × Node := ("headline".toList, .leaf "News article headline")
    let completion : Completion := ⟨⟨11, 13⟩, [Candidate.ofChild headline]⟩
    t.contextAt {} 13 = .property "news".toList "HE".toList true ∧
      complete {} tree t 13 = some completion ∧ completion.span.of t = "HE".toList ∧
      (t.replace completion.span headline.1).contextAt {} (11 + 8 : Nat)
        = .property "news".toList headline.1 true ∧
      tree.get? ("news".toList ++ '.' :: headline.1) = some headline.2 := by
  intro t tree headline completion
  have hcontext : t.contextAt {} 13 = .property "news".toList "HE".toList true := by
    decide +kernel
  have hcomplete : complete {} tree t 13 = some completion := by decide +kernel
  obtain ⟨-, -, hspan, -, haccept⟩ := (complete_property hcontext).2 completion hcomplete
  have hword : IsWord headline.1 := by decide
  have hlast : ∀ c ∈ (t.take (t.clamp 13)).getLast?, isBlank c = false := by
    intro c hc
    obtain rfl : 'E' = c := Option.some.inj hc
    decide
  obtain ⟨hagain, hget⟩ :=
    haccept headline.1 headline.2 (List.mem_singleton_self headline) hword hlast
  exact ⟨hcontext, hcomplete, hspan, hagain, hget (by decide +kernel)⟩

end TemplateAssist
