import Mathlib.Data.List.TakeWhile
import TemplateAssist.Proofs.Text.Segments
import TemplateAssist.Report.Markup

/-!
# Escaped texts

A text of unknown content is escaped before it is printed as part of a styled text, so that nothing
in it is taken for a tag:

* `tag?_eq_some_iff` — what a tag is, without reference to how one is looked for;
* `tag_notMem_piecesFrom_escapeFrom` — an escaped text has no tags, whatever stands before it;
* `exists_shownText_eq_ok` — text without tags is shown;
* `exists_plain?_error` — so an error can be printed in its style, whatever its wording is.
-/

set_option autoImplicit false

namespace TemplateAssist

/-! ## Styles of one word -/

/-- Only a colour that is given by its parts can have one that is no number. -/
theorem Style.readWord_ne_noNumber {s : Style} {w : Text}
    (h : bracketed? "rgb" w.lower = none) : s.readWord w ≠ .error .noNumber := by
  unfold readWord
  split
  · nofun
  · simp only [colour?, h]
    split_ifs <;> nofun

theorem Style.ofWords?_singleton {t w : Text} (hnone : t.trim ≠ "none".toList)
    (hwords : (t.splitOnP isBlank).filter (!·.isEmpty) = [w]) :
    ofWords? t = readWord {} w.lower := by
  rw [ofWords?, if_neg hnone, hwords, readWords]

namespace Markup

/-! ## Tags -/

/-- **A tag is what stands before the next closing bracket**, if it has no opening bracket in it and
starts as tags do. -/
theorem tag?_eq_some_iff {t tag : Text} :
    tag? t = some tag ↔
      (∃ after, t = tag ++ ']' :: after) ∧ (∀ c ∈ tag, c ≠ ']' ∧ c ≠ '[') ∧
        (tag.head?.map startsTag).getD false = true := by
  simp only [tag?, Option.ite_none_right_eq_some, Option.some.injEq, Bool.and_eq_true, beq_iff_eq]
  constructor
  · rintro ⟨⟨hstart, hnext⟩, htag⟩
    rw [htag] at hstart hnext
    have hinside : ∀ c ∈ tag, c ≠ ']' ∧ c ≠ '[' := by
      rw [← htag]
      intro c hc
      simpa using List.mem_takeWhile_imp hc
    refine ⟨?_, hinside, hstart⟩
    obtain ⟨after, rfl⟩ := htag ▸ List.takeWhile_prefix (l := t) _
    rw [List.getElem?_append_right le_rfl, Nat.sub_self, ← List.head?_eq_getElem?] at hnext
    obtain ⟨after, rfl⟩ := List.head?_eq_some_iff.1 hnext
    exact ⟨after, rfl⟩
  · rintro ⟨⟨after, rfl⟩, hinside, hstart⟩
    have hcut : (tag ++ ']' :: after).takeWhile (fun c ↦ c ≠ ']' && c ≠ '[') = tag := by
      rw [List.takeWhile_append_of_pos (by simpa using hinside)]
      simp
    rw [hcut]
    simp [hstart]

/-! ## Tags in an escaped text -/

/-- Backslashes before a tag belong to its inside. -/
theorem exists_of_replicate_append {n : Nat} {t tag after : Text}
    (h : List.replicate n '\\' ++ t = tag ++ ']' :: after) :
    ∃ inside, tag = List.replicate n '\\' ++ inside ∧ t = inside ++ ']' :: after := by
  rcases List.append_eq_append_iff.1 h with ⟨inside, htag, ht⟩ | ⟨rest, hslashes, hafter⟩
  · exact ⟨inside, htag, ht⟩
  · cases rest with
    | nil => exact ⟨[], by simpa using hslashes.symm, by simpa using hafter.symm⟩
    | cons c rest =>
      obtain ⟨rfl, -⟩ := List.cons.inj hafter
      have hmem : ']' ∈ List.replicate n '\\' := by simp [hslashes]
      simp at hmem

/-- Escaping moves no closing bracket in front of an opening one: what ends a tag in the escaped
text ends it in the text as well.  (`slashes` are the backslashes that are still to be written.) -/
theorem exists_of_escapeFrom_append {slashes : Nat} {t tail tag after : Text}
    (htail : ∀ c ∈ tail, c = '\\') (htag : ∀ c ∈ tag, c ≠ ']' ∧ c ≠ '[')
    (h : escapeFrom slashes 0 t ++ tail = tag ++ ']' :: after) :
    ∃ after', List.replicate slashes '\\' ++ t = tag ++ ']' :: after' := by
  induction t generalizing slashes tag with
  | nil =>
    have hmem : ']' ∈ escapeFrom slashes 0 [] ++ tail := by simp [h]
    rcases List.mem_append.1 hmem with hslash | hslash
    · simp [escapeFrom] at hslash
    · exact absurd (htail _ hslash) (by decide)
  | cons c rest ih =>
    simp only [escapeFrom] at h
    split_ifs at h with hslash hopen
    · obtain ⟨after', hrest⟩ := ih htag h
      exact ⟨after', by rw [← hrest, hslash, List.replicate_succ']; simp⟩
    · have hopened : ∃ n u, List.replicate n '\\' ++ '[' :: u = tag ++ ']' :: after := by
        subst hopen
        split at h <;> exact ⟨_, _, by simpa using h⟩
      obtain ⟨n, u, hu⟩ := hopened
      obtain ⟨inside, rfl, hinside⟩ := exists_of_replicate_append hu
      cases inside with
      | nil => simp at hinside
      | cons d inside =>
        obtain ⟨rfl, -⟩ := List.cons.inj hinside
        simpa using htag '['
    · obtain ⟨inside, rfl, hinside⟩ := exists_of_replicate_append (by simpa using h)
      cases inside with
      | nil =>
        obtain ⟨rfl, -⟩ := List.cons.inj hinside
        exact ⟨rest, by simp⟩
      | cons d inside =>
        obtain ⟨rfl, hrest⟩ := List.cons.inj hinside
        obtain ⟨after', heq⟩ := ih (fun d hd ↦ htag d (by simp [hd])) hrest
        exact ⟨after', by simpa using heq⟩

/-- Where no tag starts in a text, none starts in the escaped text. -/
theorem tag?_escapeFrom_eq_none {t tail : Text} (htail : ∀ c ∈ tail, c = '\\')
    (h : tag? t = none) : tag? (escapeFrom 0 0 t ++ tail) = none := by
  by_contra hsome
  obtain ⟨tag, htag⟩ := Option.ne_none_iff_exists'.1 hsome
  obtain ⟨⟨after, heq⟩, hinside, hstart⟩ := tag?_eq_some_iff.1 htag
  obtain ⟨after', ht⟩ := exists_of_escapeFrom_append htail hinside heq
  have hfound : tag? t = some tag :=
    tag?_eq_some_iff.2 ⟨⟨after', by simpa using ht⟩, hinside, hstart⟩
  rw [h] at hfound
  cases hfound

/-- The characters of a tag are copied. -/
theorem escapeFrom_length (u : Text) (t : Text) :
    escapeFrom 0 u.length (u ++ t) = u ++ escapeFrom 0 0 t := by
  induction u with
  | nil => rfl
  | cons c u ih => simp [escapeFrom, ih]

/-- Where a tag starts in a text, the same tag starts in the escaped text. -/
theorem tag?_escapeFrom_eq_some {t tag : Text} (tail : Text) (h : tag? t = some tag) :
    tag? (escapeFrom 0 (tag.length + 1) t ++ tail) = some tag := by
  obtain ⟨⟨after, rfl⟩, hinside, hstart⟩ := tag?_eq_some_iff.1 h
  have hcopy := escapeFrom_length (tag ++ [']']) after
  rw [List.length_append, List.append_assoc] at hcopy
  refine tag?_eq_some_iff.2 ⟨⟨escapeFrom 0 0 after ++ tail, ?_⟩, hinside, hstart⟩
  simpa using congrArg (· ++ tail) hcopy

theorem piecesFrom_replicate_append (before : Text) (slashes n : Nat) (t : Text) :
    piecesFrom before slashes 0 (List.replicate n '\\' ++ t)
      = piecesFrom before (slashes + n) 0 t := by
  induction n generalizing slashes with
  | zero => rfl
  | succ n ih => simp [List.replicate_succ, piecesFrom, ih, Nat.add_assoc, Nat.add_comm 1]

/-- Backslashes alone make no tag. -/
theorem tag_notMem_piecesFrom_slashes {t : Text} (ht : ∀ c ∈ t, c = '\\') (before tag : Text)
    (slashes skip : Nat) : .tag tag ∉ piecesFrom before slashes skip t := by
  induction t generalizing slashes skip with
  | nil => simp [piecesFrom]
  | cons c rest ih =>
    obtain ⟨rfl, hrest⟩ := List.forall_mem_cons.1 ht
    cases skip with
    | zero => simpa [piecesFrom] using ih hrest (slashes + 1) 0
    | succ n => simpa [piecesFrom] using ih hrest 0 n

/-- **An escaped text has no tags**, whatever stands before it and with any backslashes after it. -/
theorem tag_notMem_piecesFrom_escapeFrom {t tail : Text} (htail : ∀ c ∈ tail, c = '\\')
    (before tag : Text) (slashes skip : Nat) :
    .tag tag ∉ piecesFrom before 0 skip (escapeFrom slashes skip t ++ tail) := by
  -- what is escaped and what is read go along the text in step
  fun_induction escapeFrom slashes skip t generalizing before with
  | case1 slashes skip =>
    have hslashes : ∀ c ∈ List.replicate slashes '\\' ++ tail, c = '\\' := by
      simpa [or_imp, forall_and] using htail
    exact tag_notMem_piecesFrom_slashes hslashes before tag 0 skip
  | case2 slashes c rest n ih => exact ih before
  | case3 slashes rest ih => exact ih before
  | case4 slashes rest hnone _ ih =>
    rw [List.append_assoc, piecesFrom_replicate_append]
    simpa [piecesFrom, tag?_escapeFrom_eq_none htail hnone] using ih _
  | case5 slashes rest found hfound _ ih =>
    rw [List.append_assoc, piecesFrom_replicate_append]
    -- the number of backslashes is odd, so the tag found is text
    have hodd : (0 + (2 * slashes + 1)) % 2 = 1 := by omega
    simpa [piecesFrom, tag?_escapeFrom_eq_some tail hfound, tagPieces, hodd] using ih []
  | case6 slashes c rest hslash hopen ih =>
    rw [List.append_assoc, piecesFrom_replicate_append]
    simpa [piecesFrom, hslash, hopen] using ih _

theorem tag_notMem_piecesFrom_escape (before tag t : Text) :
    .tag tag ∉ piecesFrom before 0 0 (escape t) := by
  simp only [escape]
  split_ifs
  · exact tag_notMem_piecesFrom_escapeFrom (by simp) before tag 0 0
  · simpa using tag_notMem_piecesFrom_escapeFrom (List.forall_mem_nil _) before tag 0 0

/-! ## Showing errors -/

variable {opened used : List OpenTag} {rest : List Piece}

theorem exists_shownText_text (t : Text) (h : ∃ shown, shownText opened used rest = .ok shown) :
    ∃ shown, shownText opened used (.text t :: rest) = .ok shown := by
  obtain ⟨shown, hshown⟩ := h
  exact ⟨Emoji.expand t ++ shown, by rw [shownText, hshown]; rfl⟩

/-- Text without tags is shown, if the styles of the tags before it can be used. -/
theorem exists_shownText_eq_ok (hstyles : (opened ++ used).forM OpenTag.checkStyle = .ok ())
    (hrest : ∀ tag, .tag tag ∉ rest) : ∃ shown, shownText opened used rest = .ok shown := by
  induction rest with
  | nil => exact ⟨[], by rw [shownText, hstyles]; rfl⟩
  | cons piece rest ih =>
    cases piece with
    | tag tag => exact absurd (hrest tag) (by simp)
    | text t =>
      exact exists_shownText_text t (ih fun tag htag ↦ hrest tag (List.mem_cons_of_mem _ htag))

/-- A tag without parameters starts the style that it names. -/
theorem shownText_open {t name : Text} (hslash : t.head? ≠ some '/') (hequals : '=' ∉ t)
    (hname : nameOf t = .ok name) :
    shownText opened used (.tag t :: rest) = shownText (⟨name, none⟩ :: opened) used rest := by
  have hopen : OpenTag.ofText t = .ok ⟨name, none⟩ := by
    simp [OpenTag.ofText, Text.upTo_of_not_mem hequals, hname, bind, Except.bind, pure,
      Except.pure]
  rw [shownText, hopen]
  · rfl
  · rintro closing ⟨rfl⟩
    exact hslash rfl

/-- The tag `[/]` ends the style that was started last. -/
theorem shownText_close (name : Text) :
    shownText (⟨name, none⟩ :: opened) used (.tag ['/'] :: rest)
      = shownText opened (⟨name, none⟩ :: used) rest := by
  have hclose : close (⟨name, none⟩ :: opened) [] = .ok (⟨name, none⟩, opened) := rfl
  have hhandler : OpenTag.checkHandler ⟨name, none⟩ = .ok () := by simp [OpenTag.checkHandler]
  simp [shownText, hclose, hhandler, bind, Except.bind]

theorem exists_nameOf_eq_ok {t : Text} (h : Style.ofWords? t ≠ .error .noNumber) :
    ∃ name, nameOf t = .ok name := by
  unfold nameOf styleName?
  split
  · exact ⟨_, rfl⟩
  · exact ⟨_, rfl⟩
  · contradiction

/-- The style of errors can be used.  That `red` is a colour does not matter: a word that is not
known is a style without effect. -/
theorem exists_nameOf_red : ∃ name, nameOf "red".toList = .ok name := by
  apply exists_nameOf_eq_ok
  rw [Style.ofWords?_singleton (w := "red".toList) (by decide +kernel) (by decide +kernel)]
  exact Style.readWord_ne_noNumber (by decide +kernel)

/-- **An error can be shown**, whatever its wording is. -/
theorem exists_plain?_error (message : Text) :
    ∃ shown, plain? ("[red]Error:[/] ".toList ++ escape message) = .ok shown := by
  have hpieces : pieces ("[red]Error:[/] ".toList ++ escape message)
      = .text [] :: .text [] :: .tag "red".toList :: .text "Error:".toList :: .text [] ::
        .tag ['/'] :: piecesFrom [' '] 0 0 (escape message) := rfl
  obtain ⟨name, hname⟩ := exists_nameOf_red
  rw [plain?, hpieces]
  apply exists_shownText_text
  apply exists_shownText_text
  rw [shownText_open (by decide) (by decide) hname]
  apply exists_shownText_text
  apply exists_shownText_text
  rw [shownText_close]
  exact exists_shownText_eq_ok rfl (tag_notMem_piecesFrom_escape [' '] · message)

end Markup
end TemplateAssist
