import TemplateAssist.Text.Span

/-!
# Where one text stands in another

`t.HasAt offset w` says that the text `w` stands in `t` from `offset` on.  A scan that goes along
a text knows this of what is left of it, and whatever it finds there it can place in the whole text:

* `HasAt.left`, `HasAt.right`, `HasAt.drop` cut pieces off either end;
* `HasAt.trans` places a part of a part;
* `HasAt.slice_eq`, `HasAt.length_le` lead back to offsets.

A span that is a place of `w` and has its length is said to cover it (`Span.Covers`).
-/

set_option autoImplicit false

namespace TemplateAssist
namespace Text

/-- The text `w` stands in `t` from `offset` on. -/
def HasAt (t : Text) (offset : Nat) (w : Text) : Prop :=
  ∃ before after : Text, t = before ++ (w ++ after) ∧ before.length = offset

theorem hasAt_self (t : Text) : t.HasAt 0 t := ⟨[], [], (List.append_nil t).symm, rfl⟩

namespace HasAt

variable {t u v w : Text} {offset : Nat}

theorem left (h : t.HasAt offset (u ++ v)) : t.HasAt offset u := by
  obtain ⟨before, after, rfl, hlength⟩ := h
  exact ⟨before, v ++ after, by rw [List.append_assoc], hlength⟩

theorem right (h : t.HasAt offset (u ++ v)) : t.HasAt (offset + u.length) v := by
  obtain ⟨before, after, rfl, rfl⟩ := h
  exact ⟨before ++ u, after, by simp only [List.append_assoc], List.length_append⟩

theorem tail {c : Char} (h : t.HasAt offset (c :: w)) : t.HasAt (offset + 1) w :=
  right (u := [c]) h

theorem drop {n : Nat} (h : t.HasAt offset w) (hn : n ≤ w.length) :
    t.HasAt (offset + n) (w.drop n) := by
  rw [← List.take_append_drop n w] at h
  have hright := h.right
  rwa [List.length_take_of_le hn] at hright

/-- A part of a part. -/
theorem trans {n : Nat} (h : t.HasAt offset w) (hv : w.HasAt n v) : t.HasAt (offset + n) v := by
  obtain ⟨before, after, rfl, rfl⟩ := hv
  exact h.right.left

/-- Two texts that follow each other. -/
theorem append (hu : t.HasAt offset u) (hv : t.HasAt (offset + u.length) v) :
    t.HasAt offset (u ++ v) := by
  obtain ⟨before, after, rfl, rfl⟩ := hu
  obtain ⟨before', after', htext, hlength⟩ := hv
  rw [← List.append_assoc, ← List.length_append] at *
  obtain ⟨-, rfl⟩ := List.append_inj htext hlength.symm
  exact ⟨before, after', by simp only [List.append_assoc], rfl⟩

theorem length_le (h : t.HasAt offset w) : offset + w.length ≤ t.length := by
  obtain ⟨before, after, rfl, rfl⟩ := h
  simp only [List.length_append]
  omega

theorem slice_eq (h : t.HasAt offset w) : t.slice offset (offset + w.length) = w := by
  obtain ⟨before, after, rfl, rfl⟩ := h
  rw [slice, ← List.append_assoc, ← List.length_append, List.take_left, List.drop_left]

theorem exists_drop_eq (h : t.HasAt offset w) : ∃ after, t.drop offset = w ++ after := by
  obtain ⟨before, after, rfl, rfl⟩ := h
  exact ⟨after, List.drop_left⟩

theorem getElem?_eq {c : Char} (h : t.HasAt offset (c :: w)) : t[offset]? = some c := by
  obtain ⟨after, hafter⟩ := h.exists_drop_eq
  rw [← List.head?_drop, hafter]
  rfl

/-- What stands in a part of the text that begins at `offset`, and not among its first `n`
characters. -/
theorem mem_drop {n j : Nat} {c : Char} (h : t.HasAt offset w) (hc : t[j]? = some c)
    (hn : offset + n ≤ j) (hj : j < offset + w.length) : c ∈ w.drop n := by
  obtain ⟨before, after, rfl, rfl⟩ := h
  rw [List.getElem?_append_right (by omega), List.getElem?_append_left (by omega)] at hc
  refine List.mem_of_getElem? (i := j - before.length - n) ?_
  rw [List.getElem?_drop, ← hc]
  congr 1
  omega

/-- What stands between two offsets stands in the slice between them. -/
theorem slice {i j : Nat} (h : t.HasAt offset w) (hi : i ≤ offset) (hj : offset + w.length ≤ j) :
    (t.slice i j).HasAt (offset - i) w := by
  obtain ⟨before, after, rfl, rfl⟩ := h
  refine ⟨before.drop i, after.take (j - before.length - w.length), ?_, List.length_drop⟩
  rw [Text.slice, List.take_append, List.take_of_length_le (by omega), List.take_append,
    List.take_of_length_le (by omega), List.drop_append_of_le_length hi]

end HasAt

theorem hasAt_of_getElem? {t : Text} {i : Nat} {c : Char} (h : t[i]? = some c) : t.HasAt i [c] := by
  obtain ⟨hlt, rfl⟩ := List.getElem?_eq_some_iff.1 h
  refine ⟨t.take i, t.drop (i + 1), ?_, List.length_take_of_le (Nat.le_of_lt hlt)⟩
  rw [List.singleton_append, ← List.drop_eq_getElem_cons hlt, List.take_append_drop]

theorem take_append_slice (t : Text) {i j : Nat} (hij : i ≤ j) :
    t.take i ++ t.slice i j = t.take j := by
  rw [slice, ← Nat.min_eq_left hij, ← List.take_take, Nat.min_eq_left hij]
  exact List.take_append_drop i (t.take j)

@[simp]
theorem length_slice (t : Text) (i j : Nat) : (t.slice i j).length = min j t.length - i := by
  simp [slice]

/-- A slice of a slice, if it does not reach beyond. -/
theorem slice_slice (t : Text) {lo hi j : Nat} (i : Nat) (h : lo + j ≤ hi) :
    (t.slice lo hi).slice i j = t.slice (lo + i) (lo + j) := by
  simp only [slice, List.take_drop, List.drop_drop, List.take_take, Nat.min_eq_left h]

theorem sliceAt_natCast (t : Text) (i j : Nat) : t.sliceAt i j = t.slice i j := by
  rw [sliceAt, place_natCast, place_natCast, slice, slice, ← List.take_eq_take_min]
  by_cases hi : i ≤ t.length
  · rw [Nat.min_eq_left hi]
  · have hlength : (t.take j).length ≤ t.length := List.length_take_le' j t
    rw [Nat.min_eq_right (by omega), List.drop_eq_nil_of_le hlength,
      List.drop_eq_nil_of_le (by omega)]

theorem hasAt_slice {t : Text} {i j : Nat} (hij : i ≤ j) (hi : i ≤ t.length) :
    t.HasAt i (t.slice i j) := by
  refine ⟨t.take i, t.drop j, ?_, List.length_take_of_le hi⟩
  rw [← List.append_assoc, take_append_slice t hij, List.take_append_drop]

theorem hasAt_upTo (sep : Char) (t : Text) : t.HasAt 0 (t.upTo sep) :=
  ⟨[], t.dropWhile (· ≠ sep), List.takeWhile_append_dropWhile.symm, rfl⟩

/-- An occurrence that is found is one. -/
theorem hasAt_of_find? {needle t : Text} {n : Nat} (h : find? needle t = some n) :
    t.HasAt n needle := by
  induction t generalizing n with
  | nil =>
    rw [find?] at h
    split at h
    · next hnil =>
      obtain rfl := Option.some.inj h
      rw [hnil]
      exact hasAt_self []
    · cases h
  | cons c rest ih =>
    rw [find?] at h
    split at h
    · next hpre =>
      obtain rfl := Option.some.inj h
      obtain ⟨after, hafter⟩ := List.isPrefixOf_iff_prefix.1 hpre
      exact ⟨[], after, hafter.symm, rfl⟩
    · obtain ⟨m, hm, rfl⟩ := Option.map_eq_some_iff.1 h
      obtain ⟨before, after, rfl, rfl⟩ := ih hm
      exact ⟨c :: before, after, rfl, rfl⟩

/-- What stands in a text is found. -/
theorem find?_isSome_of_hasAt {needle t : Text} {offset : Nat} (h : t.HasAt offset needle) :
    (find? needle t).isSome = true := by
  obtain ⟨before, after, rfl, -⟩ := h
  induction before with
  | nil =>
    cases hn : needle ++ after with
    | nil => rw [List.nil_append, find?, if_pos (List.append_eq_nil_iff.1 hn).1]; rfl
    | cons c rest =>
      rw [List.nil_append, find?, if_pos (List.isPrefixOf_iff_prefix.2 ⟨after, hn⟩)]
      rfl
  | cons c before ih =>
    rw [List.cons_append, find?]
    split
    · rfl
    · rw [Option.isSome_map]
      exact ih

/-- What a text starts with is found at its start. -/
theorem find?_of_prefix {needle t : Text} (h : needle <+: t) : find? needle t = some 0 := by
  cases t with
  | nil => rw [find?, if_pos (List.prefix_nil.1 h)]
  | cons c rest => rw [find?, if_pos (List.isPrefixOf_iff_prefix.2 h)]

end Text

/-! ## Spans -/

namespace Span

/-- The span is where `w` stands in `t`. -/
structure Covers (span : Span Nat) (t w : Text) : Prop where
  hasAt : t.HasAt span.start w
  stop_eq : span.stop = span.start + w.length

variable {span : Span Nat} {t w : Text}

theorem covers_of_hasAt {offset : Nat} (h : t.HasAt offset w) :
    Covers ⟨offset, offset + w.length⟩ t w := ⟨h, rfl⟩

theorem covers_single {offset : Nat} {c : Char} (h : t.HasAt offset [c]) :
    Covers (.single offset) t [c] := ⟨h, rfl⟩

theorem Covers.of_eq (h : span.Covers t w) : span.of t = w := by
  rw [of, h.stop_eq]
  exact h.hasAt.slice_eq

theorem Covers.stop_le (h : span.Covers t w) : span.stop ≤ t.length := by
  rw [h.stop_eq]
  exact h.hasAt.length_le

theorem Covers.start_lt_stop (h : span.Covers t w) (hw : w ≠ []) : span.start < span.stop := by
  have hpos : 0 < w.length := List.length_pos_iff.2 hw
  rw [h.stop_eq]
  omega

end Span
end TemplateAssist
