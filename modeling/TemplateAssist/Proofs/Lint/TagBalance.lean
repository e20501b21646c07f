import TemplateAssist.Lint.TagBalance
import TemplateAssist.Proofs.Text.Trim

/-!
# What a statement does to the open bodies

One visit of a block depends on the open bodies only through the event of the block
(`Block.event`), and only an end tag that closes nothing is reported in terms of them.  Everything
else that is reported for a block is a remark on its first word (`Block.remarks`).

* `visit_opens`, `visit_closes`, `visit_other` — one visit, by the event of the block;
* `firstWord?_append` — the first word of a content that starts with one;
* `Tag.ofWord?_eq_some_iff`, `Tag.ofEndWord?_eq_some_iff` — the words that stand for tags.
-/

set_option autoImplicit false

namespace TemplateAssist

/-! ## Words that stand for tags -/

namespace Tag

theorem ofWord?_eq_some_iff {word : Text} {tag : Tag} :
    ofWord? word = some tag ↔ word = tag.name.toList := by
  constructor
  · intro h
    have hname : decide (tag.name.toList = word) = true := List.find?_some (a := tag) h
    exact (of_decide_eq_true hname).symm
  · rintro rfl
    cases tag <;> decide

theorem ofEndWord?_eq_some_iff {word : Text} {tag : Tag} :
    ofEndWord? word = some tag ↔ word = tag.endName.toList := by
  constructor
  · intro h
    have hname : decide (tag.endName.toList = word) = true := List.find?_some (a := tag) h
    exact (of_decide_eq_true hname).symm
  · rintro rfl
    cases tag <;> decide

theorem ofWord?_endName (tag : Tag) : ofWord? tag.endName.toList = none := by
  cases tag <;> decide

theorem meantWord?_name (tag : Tag) : meantWord? tag.name.toList = none := by
  cases tag <;> decide

theorem meantWord?_endName (tag : Tag) : meantWord? tag.endName.toList = none := by
  cases tag <;> decide

end Tag

/-! ## First words -/

theorem unsigned_suffix (content : Text) : unsigned content <:+ content := by
  unfold unsigned
  split
  · exact List.suffix_cons _ _
  · exact List.suffix_cons _ _
  · exact List.suffix_refl _

theorem unsigned_of_word {c : Char} (rest : Text) (hc : isWordChar c = true) :
    unsigned (c :: rest) = c :: rest := by
  unfold unsigned
  split
  · next heq => rw [(List.cons.inj heq).1] at hc; exact absurd hc (by decide)
  · next heq => rw [(List.cons.inj heq).1] at hc; exact absurd hc (by decide)
  · rfl

/-- The first word of a content that starts with a word. -/
theorem firstWord?_append {w rest : Text} (hne : w ≠ []) (hw : ∀ c ∈ w, isWordChar c = true)
    (hrest : ∀ c, rest.head? = some c → isWordChar c = false) :
    firstWord? (w ++ rest) = some (0, w) := by
  obtain ⟨c, w', rfl⟩ := List.exists_cons_of_ne_nil hne
  have hc : isWordChar c = true := hw c List.mem_cons_self
  have hword : (c :: w' ++ rest).takeWhile isWordChar = c :: w' := by
    rw [List.takeWhile_append_of_pos hw]
    cases rest with
    | nil => simp
    | cons d rest => rw [List.takeWhile_cons_of_neg (by simp [hrest d rfl]), List.append_nil]
  have hstart : (unsigned (c :: w' ++ rest)).trimLeft = c :: w' ++ rest := by
    rw [List.cons_append, unsigned_of_word _ hc, Text.trimLeft_cons _ (isBlank_of_isWordChar hc)]
  simp only [firstWord?, hstart, hword, Nat.sub_self]
  rfl

/-- The first word stands at its offset. -/
theorem eq_of_firstWord? {content word : Text} {offset : Nat}
    (h : firstWord? content = some (offset, word)) :
    word ≠ [] ∧
      ∃ before rest : Text, content = before ++ (word ++ rest) ∧ before.length = offset := by
  have hsuffix : (unsigned content).trimLeft <:+ content :=
    (Text.trimLeft_suffix _).trans (unsigned_suffix content)
  obtain ⟨before, hbefore⟩ := hsuffix
  simp only [firstWord?] at h
  split at h
  · cases h
  · next hne =>
    obtain ⟨hoff, hword⟩ := Prod.mk.inj (Option.some.inj h)
    refine ⟨fun hnil ↦ hne (by rw [hword, hnil]; rfl), before,
      (unsigned content).trimLeft.dropWhile isWordChar, ?_, ?_⟩
    · rw [← hword, List.takeWhile_append_dropWhile, hbefore]
    · rw [← hoff, ← hbefore, List.length_append, hbefore]
      omega

/-! ## Events and remarks -/

/-- What a block says about bodies. -/
def Block.event (settings : Settings) (b : Block) : TagBalance.Event :=
  match b.kind, firstWord? b.content with
  | .statement, some (_, word) => TagBalance.event settings b.content word
  | _, _ => .neutral

/-- What is reported of the first word of a block, whatever bodies are open. -/
def Block.remarks (settings : Settings) (b : Block) : List Finding :=
  match b.kind, firstWord? b.content with
  | .statement, some (offset, word) =>
    let span : Span Nat :=
      ⟨b.contentOffset + offset, b.contentOffset + offset + word.length⟩
    TagBalance.misspelling span word ++
      if b.event settings = .invalid then [⟨span, .invalidEnd word, .error⟩] else []
  | _, _ => []

namespace TagBalance

theorem word_of_event_eq_opens {settings : Settings} {content word : Text} {tag : Tag}
    (h : event settings content word = .opens tag) : word = tag.name.toList := by
  rw [event] at h
  split at h
  · next tag' htag =>
    split at h
    · cases h
    · cases h
      exact Tag.ofWord?_eq_some_iff.1 htag
  · split at h
    · cases h
    · split at h <;> cases h

theorem word_of_event_eq_closes {settings : Settings} {content word : Text} {tag : Tag}
    (h : event settings content word = .closes tag) : word = tag.endName.toList := by
  rw [event] at h
  split at h
  · split at h <;> cases h
  · split at h
    · next tag' htag =>
      cases h
      exact Tag.ofEndWord?_eq_some_iff.1 htag
    · split at h <;> cases h

theorem event_name {settings : Settings} {content : Text} {tag : Tag}
    (h : tag = .setTag → isInlineSet content = false) :
    event settings content tag.name.toList = .opens tag := by
  simp only [event, Tag.ofWord?_eq_some_iff.2 rfl]
  by_cases ht : tag = .setTag
  · simp [h ht]
  · simp [ht]

theorem event_endName (settings : Settings) (content : Text) (tag : Tag) :
    event settings content tag.endName.toList = .closes tag := by
  simp only [event, Tag.ofWord?_endName, Tag.ofEndWord?_eq_some_iff.2 rfl]

/-- A block with an event of its own is a statement with a first word. -/
theorem exists_firstWord?_of_event {settings : Settings} {b : Block}
    (h : b.event settings ≠ .neutral) : b.kind = .statement ∧
      ∃ offset word, firstWord? b.content = some (offset, word) ∧
        b.event settings = event settings b.content word := by
  unfold Block.event at h ⊢
  split at h
  · next offset word hk hw => exact ⟨hk, offset, word, hw, rfl⟩
  · exact absurd rfl h

theorem firstWord?_of_opens {settings : Settings} {b : Block} {tag : Tag}
    (h : b.event settings = .opens tag) :
    b.kind = .statement ∧ ∃ offset, firstWord? b.content = some (offset, tag.name.toList) := by
  obtain ⟨hk, offset, word, hw, he⟩ :=
    exists_firstWord?_of_event (by rw [h]; exact Event.noConfusion)
  rw [h] at he
  rw [word_of_event_eq_opens he.symm] at hw
  exact ⟨hk, offset, hw⟩

theorem firstWord?_of_closes {settings : Settings} {b : Block} {tag : Tag}
    (h : b.event settings = .closes tag) :
    b.kind = .statement ∧ ∃ offset, firstWord? b.content = some (offset, tag.endName.toList) := by
  obtain ⟨hk, offset, word, hw, he⟩ :=
    exists_firstWord?_of_event (by rw [h]; exact Event.noConfusion)
  rw [h] at he
  rw [word_of_event_eq_closes he.symm] at hw
  exact ⟨hk, offset, hw⟩

theorem remarks_eq_nil {settings : Settings} {b : Block} {offset : Nat} {word : Text}
    (hk : b.kind = .statement) (hw : firstWord? b.content = some (offset, word))
    (hm : meantWord? word = none) (he : b.event settings ≠ .invalid) :
    b.remarks settings = [] := by
  simp only [Block.remarks, hk, hw, misspelling, hm, if_neg he]
  rfl

theorem remarks_of_opens {settings : Settings} {b : Block} {tag : Tag}
    (h : b.event settings = .opens tag) : b.remarks settings = [] := by
  obtain ⟨hk, offset, hw⟩ := firstWord?_of_opens h
  exact remarks_eq_nil hk hw tag.meantWord?_name (by rw [h]; exact Event.noConfusion)

/-! ## One visit -/

theorem check_cons (settings : Settings) (stack : List Pending) (b : Block) (rest : List Block) :
    check settings stack (b :: rest)
      = (visit settings b stack).2 ++ check settings (visit settings b stack).1 rest := rfl

theorem visit_of_firstWord? {settings : Settings} {b : Block} {offset : Nat} {word : Text}
    (stack : List Pending) (hk : b.kind = .statement)
    (hw : firstWord? b.content = some (offset, word)) :
    visit settings b stack =
      let span : Span Nat :=
        ⟨b.contentOffset + offset, b.contentOffset + offset + word.length⟩
      let r := react b span word stack (b.event settings)
      (r.1, misspelling span word ++ r.2) := by
  have he : b.event settings = event settings b.content word := by simp only [Block.event, hk, hw]
  simp only [visit, hk, hw, he]

theorem visit_opens {settings : Settings} {b : Block} {tag : Tag} (stack : List Pending)
    (h : b.event settings = .opens tag) :
    visit settings b stack = (⟨tag, b.span⟩ :: stack, []) := by
  obtain ⟨hk, offset, hw⟩ := firstWord?_of_opens h
  rw [visit_of_firstWord? stack hk hw, h]
  simp only [react, misspelling, Tag.meantWord?_name]
  rfl

/-- The finding for an end tag that closes nothing, by the innermost open body. -/
def unmatchedEnd (b : Block) (tag : Tag) : Option Pending → Finding
  | none => ⟨b.span, .unexpectedEnd tag, .error⟩
  | some top => ⟨b.span, .wrongEnd top.tag tag, .error⟩

theorem visit_closes {settings : Settings} {b : Block} {tag : Tag} (stack : List Pending)
    (h : b.event settings = .closes tag) :
    visit settings b stack =
      if stack.head?.map (·.tag) = some tag then (stack.tail, [])
      else (stack, [unmatchedEnd b tag stack.head?]) := by
  obtain ⟨hk, offset, hw⟩ := firstWord?_of_closes h
  rw [visit_of_firstWord? stack hk hw, h]
  simp only [misspelling, Tag.meantWord?_endName, Option.map_none, Option.toList_none,
    List.nil_append]
  cases stack with
  | nil => rfl
  | cons top below =>
    by_cases ht : top.tag = tag
    · simp [react, ht]
    · simp [react, ht, unmatchedEnd]

theorem visit_other {settings : Settings} {b : Block} (stack : List Pending)
    (ho : ∀ tag, b.event settings ≠ .opens tag) (hc : ∀ tag, b.event settings ≠ .closes tag) :
    visit settings b stack = (stack, b.remarks settings) := by
  cases hw : firstWord? b.content with
  | none => cases hk : b.kind <;> simp only [visit, Block.remarks, hk, hw]
  | some found =>
    obtain ⟨offset, word⟩ := found
    cases hk : b.kind with
    | expression => simp only [visit, Block.remarks, hk]
    | comment => simp only [visit, Block.remarks, hk]
    | statement =>
      rw [visit_of_firstWord? stack hk hw]
      simp only [Block.remarks, hk, hw]
      cases he : b.event settings with
      | opens tag => exact absurd he (ho tag)
      | closes tag => exact absurd he (hc tag)
      | invalid => simp [react]
      | neutral => simp [react]

end TagBalance
end TemplateAssist
