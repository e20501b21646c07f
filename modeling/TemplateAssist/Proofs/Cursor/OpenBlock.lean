import Mathlib.Order.Bounds.Basic
import TemplateAssist.Cursor.Context
import TemplateAssist.Proofs.Text.Trailing

/-!
# The opener that is still open

An opener is open at the end of a line if none of the characters that can close a block comes after
it.  `openBlock?` does not try the openers one after the other: it starts from the last blocking
character, and takes the first opener from there on.  This is right because of two facts that pull
in opposite directions, and that meet one character before the last blocking one:

* an opener that ends before the last blocking character is not open (`leftmostOpen?_append`);
* one that ends with it, or after it, is open (`leftmostOpen?_eq_firstOpener?`).  It can end with
  it, as the second character of `{%` and `{#` is a blocking one itself.

`leftmostOpen?` is the plain search, and `openBlock?_eq_leftmostOpen?` says that the two agree.
-/

set_option autoImplicit false

namespace TemplateAssist

/-! ## Open openers -/

/-- An opener stands at the offset, and none of the characters after it closes a block. -/
def Text.OpensAt (line : Text) (a : Nat) : Prop :=
  (∃ kind : BlockKind, line.HasAt a kind.opener) ∧ ∀ c ∈ line.drop (a + 2), c ∉ ['}', '%', '#']

theorem isBlocking_eq_false_iff {c : Char} : isBlocking c = false ↔ c ∉ ['}', '%', '#'] := by
  simp [isBlocking, and_assoc]

theorem any_isBlocking_eq_false_iff {t : Text} :
    t.any isBlocking = false ↔ ∀ c ∈ t, c ∉ ['}', '%', '#'] := by
  simp only [List.any_eq_false, Bool.not_eq_true, isBlocking_eq_false_iff]

namespace BlockKind

variable {t rest : Text} {kind : BlockKind}

theorem drop_two_of_opening? (h : opening? t = some (kind, rest)) : t.drop 2 = rest := by
  rw [opening?_eq_some_iff.1 h]
  cases kind <;> rfl

theorem opener_append_inj {other : BlockKind} {rest' : Text}
    (h : kind.opener ++ rest = other.opener ++ rest') : kind = other ∧ rest = rest' := by
  have hfound := opening?_eq_some_iff.2 h
  rw [opening?_eq_some_iff.2 rfl] at hfound
  exact Prod.mk.inj (Option.some.inj hfound)

end BlockKind

namespace Text

variable {t : Text} {c : Char} {a : Nat}

theorem opensAt_iff : t.OpensAt a ↔
    ∃ kind rest, t.drop a = BlockKind.opener kind ++ rest ∧ ∀ c ∈ rest, c ∉ ['}', '%', '#'] := by
  have hrest {kind : BlockKind} {rest : Text} (h : t.drop a = kind.opener ++ rest) :
      t.drop (a + 2) = rest := by
    rw [← List.drop_drop, h]
    exact BlockKind.drop_two_of_opening? (BlockKind.opening?_eq_some_iff.2 rfl)
  constructor
  · rintro ⟨⟨kind, hat⟩, hopen⟩
    obtain ⟨rest, hdrop⟩ := hat.exists_drop_eq
    exact ⟨kind, rest, hdrop, hrest hdrop ▸ hopen⟩
  · rintro ⟨kind, rest, hdrop, hopen⟩
    refine ⟨⟨kind, t.take a, rest, by rw [← hdrop, List.take_append_drop], ?_⟩,
      (hrest hdrop).symm ▸ hopen⟩
    refine List.length_take_of_le (Nat.le_of_lt (Nat.lt_of_not_le fun hle ↦ ?_))
    rw [List.drop_eq_nil_of_le hle] at hdrop
    cases kind <;> cases hdrop

theorem not_opensAt_nil : ¬ OpensAt [] a := by
  rintro ⟨⟨kind, hat⟩, -⟩
  have hle := hat.length_le
  cases kind <;> simp [BlockKind.opener] at hle

theorem opensAt_succ_iff : OpensAt (c :: t) (a + 1) ↔ t.OpensAt a := by
  rw [opensAt_iff, opensAt_iff, List.drop_succ_cons]

end Text

/-! ## The plain search -/

/-- The leftmost opener that is open, with the text after it.  Every place is tried, from the start
of the line on. -/
def leftmostOpen? : Text → Option (BlockKind × Text)
  | [] => none
  | c :: rest =>
    ((BlockKind.opening? (c :: rest)).filter fun found ↦ !found.2.any isBlocking).or
      (leftmostOpen? rest)

theorem filter_opening?_eq_some_iff {t rest : Text} {kind : BlockKind} :
    (BlockKind.opening? t).filter (fun found ↦ !found.2.any isBlocking) = some (kind, rest) ↔
      t = kind.opener ++ rest ∧ ∀ c ∈ rest, c ∉ ['}', '%', '#'] := by
  rw [Option.filter_eq_some_iff, BlockKind.opening?_eq_some_iff, Bool.not_eq_true',
    any_isBlocking_eq_false_iff]

theorem filter_opening?_eq_none_iff {t : Text} :
    (BlockKind.opening? t).filter (fun found ↦ !found.2.any isBlocking) = none ↔
      ¬ t.OpensAt 0 := by
  rw [Option.eq_none_iff_forall_ne_some, Text.opensAt_iff, List.drop_zero]
  simp only [not_exists, Prod.forall, Ne, filter_opening?_eq_some_iff]

theorem not_opensAt_of_leftmostOpen?_eq_none {t : Text} (h : leftmostOpen? t = none) (a : Nat) :
    ¬ t.OpensAt a := by
  induction t generalizing a with
  | nil => exact Text.not_opensAt_nil
  | cons c t ih =>
    obtain ⟨hhere, hlater⟩ := Option.or_eq_none_iff.1 h
    cases a with
    | zero => exact filter_opening?_eq_none_iff.1 hhere
    | succ a => exact fun ha ↦ ih hlater a (Text.opensAt_succ_iff.1 ha)

theorem exists_of_leftmostOpen? {t rest : Text} {kind : BlockKind}
    (h : leftmostOpen? t = some (kind, rest)) :
    ∃ a, IsLeast {a | t.OpensAt a} a ∧ t.drop a = kind.opener ++ rest := by
  induction t with
  | nil => cases h
  | cons c t ih =>
    rcases Option.or_eq_some_iff.1 h with hhere | ⟨hnone, hlater⟩
    · obtain ⟨heq, hopen⟩ := filter_opening?_eq_some_iff.1 hhere
      exact ⟨0, ⟨Text.opensAt_iff.2 ⟨kind, rest, heq, hopen⟩, fun b _ ↦ Nat.zero_le b⟩, heq⟩
    · obtain ⟨a, ⟨ha, hleast⟩, hdrop⟩ := ih hlater
      refine ⟨a + 1, ⟨Text.opensAt_succ_iff.2 ha, fun b hb ↦ ?_⟩, hdrop⟩
      cases b with
      | zero => exact absurd hb (filter_opening?_eq_none_iff.1 hnone)
      | succ b => exact Nat.succ_le_succ (hleast (Text.opensAt_succ_iff.1 hb))

/-- **The plain search** finds the leftmost open opener. -/
theorem leftmostOpen?_eq_some_iff {t rest : Text} {kind : BlockKind} :
    leftmostOpen? t = some (kind, rest) ↔
      ∃ a, IsLeast {a | t.OpensAt a} a ∧ t.drop a = kind.opener ++ rest := by
  constructor
  · exact exists_of_leftmostOpen?
  · rintro ⟨a, hleast, hdrop⟩
    cases hfound : leftmostOpen? t with
    | none => exact absurd hleast.1 (not_opensAt_of_leftmostOpen?_eq_none hfound a)
    | some found =>
      obtain ⟨other, after⟩ := found
      obtain ⟨b, hleast', hdrop'⟩ := exists_of_leftmostOpen? hfound
      rw [hleast.unique hleast', hdrop'] at hdrop
      obtain ⟨hkind, hrest⟩ := BlockKind.opener_append_inj hdrop
      rw [← hkind, ← hrest]

/-! ## The search from the last blocking character -/

/-- Where nothing blocks after the first two characters, every opener is open. -/
theorem leftmostOpen?_eq_firstOpener? {t : Text} (h : ∀ c ∈ t.drop 2, isBlocking c = false) :
    leftmostOpen? t = firstOpener? t := by
  induction t with
  | nil => rfl
  | cons c t ih =>
    have hlater : ∀ d ∈ t.drop 2, isBlocking d = false := by
      intro d hd
      refine h d (List.mem_of_mem_drop (i := 1) ?_)
      rwa [List.drop_succ_cons, List.drop_drop]
    rw [leftmostOpen?, firstOpener?, ih hlater]
    cases hopening : BlockKind.opening? (c :: t) with
    | none => rfl
    | some found =>
      obtain ⟨kind, rest⟩ := found
      rw [BlockKind.drop_two_of_opening? hopening] at h
      have hany : rest.any isBlocking = false :=
        any_isBlocking_eq_false_iff.2 fun d hd ↦ isBlocking_eq_false_iff.1 (h d hd)
      rw [Option.filter_some, hany]
      rfl

/-- Before two characters of which the second blocks, no opener is open. -/
theorem leftmostOpen?_append (u : Text) (d : Char) {c : Char} (rest : Text)
    (h : isBlocking c = true) :
    leftmostOpen? (u ++ d :: c :: rest) = leftmostOpen? (d :: c :: rest) := by
  induction u with
  | nil => rfl
  | cons e u ih =>
    rw [List.cons_append, leftmostOpen?, ih]
    cases hopening : BlockKind.opening? (e :: (u ++ d :: c :: rest)) with
    | none => rfl
    | some found =>
      obtain ⟨kind, after⟩ := found
      have hmem : c ∈ after := by
        rw [← BlockKind.drop_two_of_opening? hopening, List.drop_succ_cons]
        cases u with
        | nil => exact List.mem_cons_self
        | cons e u => simp
      rw [Option.filter_some, List.any_eq_true.2 ⟨c, hmem, h⟩]
      rfl

/-- The last blocking character may be the second one of an opener, so the first opener from one
character before it on is the leftmost open one. -/
theorem firstOpener?_drop (line : Text) :
    firstOpener? (line.drop ((line.beforeTrailing (!isBlocking ·)).length - 2))
      = leftmostOpen? line := by
  have hcut := Text.beforeTrailing_append_trailing (!isBlocking ·) line
  have hafter : ∀ c ∈ line.trailing (!isBlocking ·), isBlocking c = false :=
    fun c hc ↦ by simpa using Text.of_mem_trailing hc
  rcases Text.beforeTrailing_eq_nil_or_concat (!isBlocking ·) line with hnil | ⟨u, c, heq, hc⟩
  · rw [hnil, List.nil_append] at hcut
    rw [hnil, List.length_nil, Nat.zero_sub, List.drop_zero]
    refine (leftmostOpen?_eq_firstOpener? fun c hc ↦ ?_).symm
    exact hafter c (hcut.symm ▸ List.mem_of_mem_drop hc)
  · have hblocking : isBlocking c = true := by simpa using hc
    rw [heq] at hcut ⊢
    generalize line.trailing (!isBlocking ·) = after at hcut hafter
    rcases List.eq_nil_or_concat' u with rfl | ⟨v, d, rfl⟩
    · rw [← hcut]
      refine (leftmostOpen?_eq_firstOpener? fun e he ↦ ?_).symm
      exact hafter e (List.mem_of_mem_drop (i := 1) he)
    · have hline : line = v ++ d :: c :: after := by
        rw [← hcut, List.append_assoc, List.append_assoc]
        rfl
      have hlength : (v ++ [d] ++ [c]).length - 2 = v.length := by simp
      rw [hlength, hline, List.drop_left, leftmostOpen?_append v d after hblocking]
      exact (leftmostOpen?_eq_firstOpener? (t := d :: c :: after) hafter).symm

/-- **The search from the last blocking character is the plain search.** -/
theorem openBlock?_eq_leftmostOpen? (line : Text) :
    openBlock? line = (leftmostOpen? line).map fun found ↦ (found.1, found.2.trimLeft) := by
  have hcut := congrArg List.length
    (Text.beforeTrailing_append_trailing (!isBlocking ·) line)
  have hstart : line.length - (line.trailing (!isBlocking ·)).length
      = (line.beforeTrailing (!isBlocking ·)).length := by
    rw [List.length_append] at hcut
    omega
  rw [openBlock?, hstart, firstOpener?_drop]

/-- **The open block of a line** is that of the leftmost open opener. -/
theorem openBlock?_eq_some_iff {line content : Text} {kind : BlockKind} :
    openBlock? line = some (kind, content) ↔
      ∃ a, IsLeast {a | line.OpensAt a} a ∧ kind.opener = line.slice a (a + 2) ∧
        content = Text.trimLeft (line.drop (a + 2)) := by
  have hdrop {a : Nat} {rest : Text} (h : line.drop a = kind.opener ++ rest) :
      kind.opener = line.slice a (a + 2) ∧ rest = line.drop (a + 2) := by
    rw [Text.slice, List.drop_take, Nat.add_sub_cancel_left, ← List.drop_drop, h]
    cases kind <;> exact ⟨rfl, rfl⟩
  simp only [openBlock?_eq_leftmostOpen?, Option.map_eq_some_iff, Prod.exists, Prod.mk.injEq,
    leftmostOpen?_eq_some_iff]
  constructor
  · rintro ⟨_, rest, ⟨a, hleast, heq⟩, rfl, rfl⟩
    obtain ⟨hopener, hrest⟩ := hdrop heq
    exact ⟨a, hleast, hopener, hrest ▸ rfl⟩
  · rintro ⟨a, hleast, hopener, rfl⟩
    refine ⟨kind, line.drop (a + 2), ⟨a, hleast, ?_⟩, rfl, rfl⟩
    rw [hopener, Text.slice, List.drop_take, Nat.add_sub_cancel_left, ← List.drop_drop,
      List.take_append_drop]

/-- **A block is open on a line** exactly when an opener on it is open, and it is the block of the
leftmost one: the search from the last blocking character finds what the plain search does. -/
theorem openBlock?_leftmost (line : Text) :
    ((openBlock? line).isSome = true ↔ ∃ a, line.OpensAt a) ∧
      (∀ kind content, openBlock? line = some (kind, content) ↔
        ∃ a, IsLeast {a | line.OpensAt a} a ∧ kind.opener = line.slice a (a + 2) ∧
          content = Text.trimLeft (line.drop (a + 2))) ∧
      openBlock? line = (leftmostOpen? line).map fun found ↦ (found.1, found.2.trimLeft) := by
  refine ⟨?_, fun kind content ↦ openBlock?_eq_some_iff, openBlock?_eq_leftmostOpen? line⟩
  rw [openBlock?_eq_leftmostOpen?, Option.isSome_map]
  constructor
  · intro h
    obtain ⟨⟨kind, rest⟩, hfound⟩ := Option.isSome_iff_exists.1 h
    obtain ⟨a, hleast, -⟩ := exists_of_leftmostOpen? hfound
    exact ⟨a, hleast.1⟩
  · rintro ⟨a, ha⟩
    refine Option.isSome_iff_ne_none.2 fun hnone ↦ ?_
    exact not_opensAt_of_leftmostOpen?_eq_none hnone a ha

end TemplateAssist
