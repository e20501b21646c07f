import Mathlib.Data.Nat.Find
import TemplateAssist.Proofs.Cursor.Neighbourhood

/-!
# The word nearest to the cursor

`wordNear?` looks for words in a stretch of the text around the cursor, and so sees of each word
only what lies in that stretch.  This file says which word of the *whole* text it comes upon, and
how much of it.

* `Span.WholeWord` — the words of a text: runs of word characters that go on on neither side;
* `mem_wordsFrom_iff`, `pairwise_wordsFrom` — the words of a text are listed, in order;
* `Span.WholeWord.exists_slice`, `Span.WholeWord.exists_of_slice` — the words of a stretch are the
  parts in it of the words of the text;
* `exists_leastBy_eq`, `Span.NearestWord` — the first one of those that are nearest.

The word is right, but the stretch may cut it: `wordNear?_eq_some_iff` is the exact statement, and
`wordNear?_cut` an instance where no word of the text is returned.
-/

set_option autoImplicit false

namespace TemplateAssist

/-! ## The words of a text -/

/-- A word character stands at an offset. -/
def Text.WordCharAt (t : Text) (i : Nat) : Prop := ∃ c, t[i]? = some c ∧ isWordChar c = true

instance (t : Text) (i : Nat) : Decidable (t.WordCharAt i) :=
  decidable_of_iff (t[i]?.any isWordChar = true) (Option.any_eq_true _ _)

/-- The span of a word of a text, which goes on on neither side. -/
structure Span.WholeWord (s : Span Nat) (t : Text) : Prop where
  start_lt_stop : s.start < s.stop
  word : ∀ i, s.start ≤ i → i < s.stop → t.WordCharAt i
  before : ∀ i, i + 1 = s.start → ¬ t.WordCharAt i
  after : ¬ t.WordCharAt s.stop

theorem Text.WordCharAt.lt_length {t : Text} {i : Nat} (h : t.WordCharAt i) : i < t.length := by
  obtain ⟨c, hc, -⟩ := h
  exact (List.getElem?_eq_some_iff.1 hc).1

theorem Text.wordCharAt_slice_iff {t : Text} {lo hi i : Nat} :
    (t.slice lo hi).WordCharAt i ↔ lo + i < hi ∧ t.WordCharAt (lo + i) := by
  by_cases h : lo + i < hi
  · simp [WordCharAt, slice, List.getElem?_take_of_lt h, h]
  · have hnone : (t.take hi)[lo + i]? = none :=
      List.getElem?_take_eq_none (Nat.le_of_not_lt h)
    simp only [WordCharAt, slice, List.getElem?_drop, hnone, reduceCtorEq, false_and, exists_false,
      h]

namespace Span.WholeWord

variable {s other : Span Nat} {t : Text}

theorem stop_le (h : s.WholeWord t) : s.stop ≤ t.length := by
  have hlast := (h.word (s.stop - 1) (by have := h.start_lt_stop; omega)
    (by have := h.start_lt_stop; omega)).lt_length
  omega

/-- Of two words, the one that starts first ends before the other starts. -/
theorem stop_le_start (h : s.WholeWord t) (hother : other.WholeWord t)
    (hlt : s.start < other.start) : s.stop ≤ other.start := by
  by_contra hgt
  exact hother.before (other.start - 1) (by omega) (h.word _ (by omega) (by omega))

/-- A word is known by its start. -/
theorem eq_of_start_eq (h : s.WholeWord t) (hother : other.WholeWord t)
    (hstart : s.start = other.start) : s = other := by
  have hs := h.start_lt_stop
  have ho := hother.start_lt_stop
  have hstop : s.stop = other.stop := by
    rcases Nat.lt_trichotomy s.stop other.stop with hlt | heq | hlt
    · exact absurd (hother.word s.stop (by omega) hlt) h.after
    · exact heq
    · exact absurd (h.word other.stop (by omega) hlt) hother.after
  cases s
  cases other
  simp_all

end Span.WholeWord

/-- The word characters that lead up to one start somewhere. -/
theorem Text.WordCharAt.exists_start {t : Text} {i : Nat} (h : t.WordCharAt i) :
    ∃ start ≤ i, (∀ j, start ≤ j → j ≤ i → t.WordCharAt j) ∧
      ∀ j, j + 1 = start → ¬ t.WordCharAt j := by
  induction i with
  | zero => exact ⟨0, le_rfl, fun j _ hj ↦ by rwa [Nat.le_zero.1 hj], fun j hj ↦ by omega⟩
  | succ i ih =>
    by_cases hi : t.WordCharAt i
    · obtain ⟨start, hle, hword, hbefore⟩ := ih hi
      refine ⟨start, by omega, fun j hj hji ↦ ?_, hbefore⟩
      rcases Nat.lt_or_eq_of_le hji with hlt | rfl
      · exact hword j hj (by omega)
      · exact h
    · exact ⟨i + 1, le_rfl, fun j hj hji ↦ by rwa [Nat.le_antisymm hji hj],
        fun j hj ↦ by rwa [Nat.succ.inj hj]⟩

/-- Every word character is part of a word. -/
theorem Text.WordCharAt.exists_wholeWord {t : Text} {i : Nat} (h : t.WordCharAt i) :
    ∃ s : Span Nat, s.WholeWord t ∧ s.start ≤ i ∧ i < s.stop := by
  classical
  obtain ⟨start, hstart, hword, hbefore⟩ := h.exists_start
  have hend : ∃ stop, i < stop ∧ ¬ t.WordCharAt stop :=
    ⟨t.length, h.lt_length, fun hlast ↦ absurd hlast.lt_length (Nat.lt_irrefl _)⟩
  obtain ⟨hstop, hafter⟩ := Nat.find_spec hend
  refine ⟨⟨start, Nat.find hend⟩, ⟨hstart.trans_lt hstop, fun j hj hjs ↦ ?_, hbefore, hafter⟩,
    hstart, hstop⟩
  by_cases hji : j ≤ i
  · exact hword j hj hji
  · exact not_not.1 fun hnot ↦ Nat.find_min hend hjs ⟨by omega, hnot⟩

/-! ## The listing of words -/

/-- What has been read of a word when a listing stands at `n`: the word characters since `k`, where
a word can start. -/
structure ReadsWord (t : Text) (k n : Nat) (read : Text) : Prop where
  add_length : k + read.length = n
  reverse_eq : read.reverse = t.slice k n
  word : ∀ i, k ≤ i → i < n → t.WordCharAt i
  before : ∀ i, i + 1 = k → ¬ t.WordCharAt i

namespace ReadsWord

variable {t read rest : Text} {k n : Nat} {c : Char}

theorem start (h : ∀ i, i + 1 = n → ¬ t.WordCharAt i) : ReadsWord t n n [] where
  add_length := rfl
  reverse_eq := by simp [Text.slice]
  word i hi hin := by omega
  before := h

/-- Reading on in a word. -/
theorem cons (h : ReadsWord t k n read) (hc : t[n]? = some c) (hword : isWordChar c = true) :
    ReadsWord t k (n + 1) (c :: read) where
  add_length := by have := h.add_length; rw [List.length_cons]; omega
  reverse_eq := by
    have hk : k ≤ n := by have := h.add_length; omega
    have hlength : k ≤ (t.take n).length := by
      have := (List.getElem?_eq_some_iff.1 hc).1
      rw [List.length_take]
      omega
    rw [List.reverse_cons, h.reverse_eq, Text.slice, Text.slice, List.take_add_one, hc,
      List.drop_append_of_le_length hlength, Option.toList_some]
  word i hi hin := by
    rcases Nat.lt_or_eq_of_le (Nat.le_of_lt_succ hin) with hlt | rfl
    · exact h.word i hi hlt
    · exact ⟨c, hc, hword⟩
  before := h.before

/-- Where a word ends, it is the one that started last. -/
theorem mem_finishedWord_iff (h : ReadsWord t k n read) (hend : ¬ t.WordCharAt n)
    {entry : Nat × Text} : entry ∈ finishedWord n read ↔
      ∃ s : Span Nat, s.WholeWord t ∧ k ≤ s.start ∧ s.start < n ∧ entry = (s.start, s.of t) := by
  have hlength := h.add_length
  rw [finishedWord]
  split
  · next hempty =>
    have hzero : read.length = 0 := by rw [List.isEmpty_iff.1 hempty]; rfl
    refine ⟨fun hmem ↦ absurd hmem List.not_mem_nil, ?_⟩
    rintro ⟨s, -, hk, hn, -⟩
    omega
  · next hne =>
    have hpos : 0 < read.length := by
      rw [List.length_pos_iff]
      exact fun hnil ↦ hne (by rw [hnil]; rfl)
    have hrun : Span.WholeWord ⟨k, n⟩ t :=
      ⟨by show k < n; omega, h.word, h.before, hend⟩
    have hstart : n - read.length = k := by omega
    rw [List.mem_singleton, hstart, h.reverse_eq]
    constructor
    · rintro rfl
      exact ⟨⟨k, n⟩, hrun, le_rfl, hrun.start_lt_stop, rfl⟩
    · rintro ⟨s, hs, hk, hn, rfl⟩
      have hsk : s.start = k := by
        by_contra hne
        exact hs.before (s.start - 1) (by omega) (h.word _ (by omega) (by omega))
      rw [hs.eq_of_start_eq hrun hsk]
      rfl

end ReadsWord

theorem Text.getElem?_of_drop_eq_cons {t rest : Text} {n : Nat} {c : Char}
    (h : t.drop n = c :: rest) : t[n]? = some c ∧ t.drop (n + 1) = rest := by
  constructor
  · rw [← List.head?_drop, h]
    rfl
  · rw [← List.drop_drop, h]
    rfl

/-- **The words that are listed** are those of the text, from where the listing started. -/
theorem mem_wordsFrom_iff {t read rest : Text} {k n : Nat} (h : ReadsWord t k n read)
    (hrest : t.drop n = rest) {entry : Nat × Text} : entry ∈ wordsFrom n read rest ↔
      ∃ s : Span Nat, s.WholeWord t ∧ k ≤ s.start ∧ entry = (s.start, s.of t) := by
  induction rest generalizing k n read with
  | nil =>
    have hle : t.length ≤ n := List.drop_eq_nil_iff.1 hrest
    have hend : ¬ t.WordCharAt n := fun hn ↦ absurd hn.lt_length (Nat.not_lt.2 hle)
    rw [wordsFrom, h.mem_finishedWord_iff hend]
    refine exists_congr fun s ↦ and_congr_right fun hs ↦ and_congr_right fun _ ↦ ?_
    have hlt : s.start < n := by
      have := hs.start_lt_stop
      have := hs.stop_le
      omega
    simp [hlt]
  | cons c rest ih =>
    obtain ⟨hc, hnext⟩ := Text.getElem?_of_drop_eq_cons hrest
    rw [wordsFrom]
    split
    · next hword => exact ih (h.cons hc hword) hnext
    · next hword =>
      have hend : ¬ t.WordCharAt n := by
        rintro ⟨d, hd, hdw⟩
        rw [hc] at hd
        exact hword (Option.some.inj hd ▸ hdw)
      have hstart : ReadsWord t (n + 1) (n + 1) [] :=
        .start fun i hi ↦ by rwa [Nat.succ.inj hi]
      have hk : k ≤ n := by have := h.add_length; omega
      rw [List.mem_append, h.mem_finishedWord_iff hend, ih hstart hnext]
      constructor
      · rintro (⟨s, hs, hks, -, rfl⟩ | ⟨s, hs, hns, rfl⟩)
        · exact ⟨s, hs, hks, rfl⟩
        · exact ⟨s, hs, by omega, rfl⟩
      · rintro ⟨s, hs, hks, rfl⟩
        rcases Nat.lt_trichotomy s.start n with hlt | heq | hgt
        · exact .inl ⟨s, hs, hks, hlt, rfl⟩
        · exact absurd (heq ▸ hs.word s.start le_rfl hs.start_lt_stop) hend
        · exact .inr ⟨s, hs, hgt, rfl⟩

theorem le_of_mem_wordsFrom {offset : Nat} {read rest : Text} {entry : Nat × Text}
    (h : entry ∈ wordsFrom offset read rest) : offset - read.length ≤ entry.1 := by
  have hfinished : ∀ {offset : Nat} {read : Text}, entry ∈ finishedWord offset read →
      offset - read.length ≤ entry.1 := by
    intro offset read hmem
    unfold finishedWord at hmem
    split at hmem
    · exact absurd hmem List.not_mem_nil
    · rw [List.mem_singleton.1 hmem]
  induction rest generalizing offset read with
  | nil => exact hfinished h
  | cons c rest ih =>
    rw [wordsFrom] at h
    split at h
    · have hle := ih h
      rw [List.length_cons] at hle
      omega
    · rcases List.mem_append.1 h with h | h
      · exact hfinished h
      · have hle := ih h
        rw [List.length_nil] at hle
        omega

/-- Words are listed in the order of the text. -/
theorem pairwise_wordsFrom (offset : Nat) (read rest : Text) (h : read.length ≤ offset) :
    (wordsFrom offset read rest).Pairwise fun a b ↦ a.1 < b.1 := by
  have hfinished : ∀ (offset : Nat) (read : Text), read.length ≤ offset →
      (finishedWord offset read).Pairwise (fun a b ↦ a.1 < b.1) ∧
        ∀ entry ∈ finishedWord offset read, entry.1 ≤ offset := by
    intro offset read h
    unfold finishedWord
    split <;> simp
  induction rest generalizing offset read with
  | nil => exact (hfinished offset read h).1
  | cons c rest ih =>
    rw [wordsFrom]
    split
    · exact ih (offset + 1) (c :: read) (Nat.succ_le_succ h)
    · refine List.pairwise_append.2
        ⟨(hfinished offset read h).1, ih (offset + 1) [] (Nat.zero_le _), ?_⟩
      intro a ha b hb
      have hle := (hfinished offset read h).2 a ha
      have hge := le_of_mem_wordsFrom hb
      rw [List.length_nil] at hge
      omega

/-! ## The words of a stretch -/

namespace Span

/-- The part of a span that lies in another one. -/
def clip (s around : Span Nat) : Span Nat :=
  ⟨max s.start around.start, min s.stop around.stop⟩

/-- How far a span is from a position; one that touches it is not far at all. -/
def distance (s : Span Nat) (pos : Nat) : Nat := (s.start - pos) + (pos - s.stop)

theorem wordGap_eq_distance (pos start : Nat) (word : Text) :
    wordGap pos start word = distance ⟨start, start + word.length⟩ pos := by
  simp only [wordGap, distance]
  split <;> omega

theorem overlaps_iff {s around : Span Nat} :
    s.overlaps around = true ↔ s.start < around.stop ∧ around.start < s.stop := by
  simp [overlaps]

/-- A span that is not empty meets a window exactly when it is nearer than the window is wide. -/
theorem overlaps_window_iff {s : Span Nat} {pos window : Nat} (hs : s.start < s.stop)
    (hwindow : 0 < window) :
    s.overlaps ⟨pos - window, pos + window⟩ = true ↔ s.distance pos < window := by
  simp only [overlaps_iff, distance]
  omega

namespace WholeWord

variable {s part : Span Nat} {t : Text} {lo hi : Nat}

/-- The part of a word in a stretch is a word of the stretch. -/
theorem exists_slice (h : s.WholeWord t) (hlohi : lo < hi) (hmeet : s.overlaps ⟨lo, hi⟩ = true) :
    ∃ part : Span Nat, part.WholeWord (t.slice lo hi) ∧ part.shift lo = s.clip ⟨lo, hi⟩ := by
  obtain ⟨hlt, hgt⟩ : s.start < hi ∧ lo < s.stop := overlaps_iff.1 hmeet
  have hs := h.start_lt_stop
  refine ⟨⟨max s.start lo - lo, min s.stop hi - lo⟩, ⟨?_, fun i hi his ↦ ?_, fun i hi ↦ ?_, ?_⟩, ?_⟩
  · show max s.start lo - lo < min s.stop hi - lo
    omega
  · dsimp only at hi his
    exact Text.wordCharAt_slice_iff.2 ⟨by omega, h.word _ (by omega) (by omega)⟩
  · dsimp only at hi
    exact fun hword ↦ h.before _ (by omega) (Text.wordCharAt_slice_iff.1 hword).2
  · intro hword
    dsimp only at hword
    obtain ⟨hin, hword⟩ := Text.wordCharAt_slice_iff.1 hword
    rw [show lo + (min s.stop hi - lo) = s.stop by omega] at hword
    exact h.after hword
  · simp only [shift, clip, mk.injEq]
    omega

/-- A word of a stretch is the part in it of a word. -/
theorem exists_of_slice (h : part.WholeWord (t.slice lo hi)) :
    ∃ s : Span Nat, s.WholeWord t ∧ s.overlaps ⟨lo, hi⟩ = true ∧
      part.shift lo = s.clip ⟨lo, hi⟩ := by
  have hpart := h.start_lt_stop
  have hword : ∀ i, part.start ≤ i → i < part.stop → lo + i < hi ∧ t.WordCharAt (lo + i) :=
    fun i hi his ↦ Text.wordCharAt_slice_iff.1 (h.word i hi his)
  obtain ⟨hfirst, hchar⟩ := hword part.start le_rfl hpart
  obtain ⟨hlast, -⟩ := hword (part.stop - 1) (by omega) (by omega)
  obtain ⟨s, hs, hle, hlt⟩ := hchar.exists_wholeWord
  have hstart : max s.start lo = part.start + lo := by
    by_contra hne
    refine h.before (part.start - 1) (by omega) (Text.wordCharAt_slice_iff.2 ⟨by omega, ?_⟩)
    exact hs.word _ (by omega) (by omega)
  have hstop : min s.stop hi = part.stop + lo := by
    rcases Nat.lt_trichotomy s.stop (part.stop + lo) with hbelow | heq | habove
    · have hin := (hword (s.stop - lo) (by omega) (by omega)).2
      rw [show lo + (s.stop - lo) = s.stop by omega] at hin
      exact absurd hin hs.after
    · omega
    · by_contra hne
      refine h.after (Text.wordCharAt_slice_iff.2 ⟨by omega, ?_⟩)
      exact hs.word _ (by omega) (by omega)
  refine ⟨s, hs, overlaps_iff.2 ⟨?_, ?_⟩, ?_⟩
  · show s.start < hi
    omega
  · show lo < s.stop
    omega
  · simp only [shift, clip, hstart, hstop]

/-- Where a word meets a stretch, the stretch has a word character in it. -/
theorem exists_mem_slice (h : s.WholeWord t) (hlohi : lo < hi)
    (hmeet : s.overlaps ⟨lo, hi⟩ = true) : ∃ c ∈ t.slice lo hi, isWordChar c = true := by
  obtain ⟨part, hpart, -⟩ := h.exists_slice hlohi hmeet
  obtain ⟨c, hc, hword⟩ := hpart.word part.start le_rfl hpart.start_lt_stop
  exact ⟨c, List.mem_of_getElem? hc, hword⟩

/-- A part of a word is as far from a position in the stretch as the word is. -/
theorem wordGap_clip {pos : Nat} (h : s.WholeWord t) (hmeet : s.overlaps ⟨lo, hi⟩ = true)
    (hlo : lo ≤ pos) (hhi : pos ≤ hi) :
    wordGap pos (s.clip ⟨lo, hi⟩).start ((s.clip ⟨lo, hi⟩).of t) = s.distance pos := by
  obtain ⟨hlt, hgt⟩ : s.start < hi ∧ lo < s.stop := overlaps_iff.1 hmeet
  have hs := h.start_lt_stop
  have hle := h.stop_le
  rw [wordGap_eq_distance]
  simp only [distance, of, clip, Text.length_slice]
  omega

/-- What a stretch shows of two words is in the order of the words. -/
theorem clip_start_lt {other around : Span Nat} (h : s.WholeWord t) (hother : other.WholeWord t)
    (hlt : other.start < s.start) (hmeet : other.overlaps around = true) :
    (other.clip around).start < (s.clip around).start := by
  have hstop := hother.stop_le_start h hlt
  obtain ⟨-, hgt⟩ := overlaps_iff.1 hmeet
  simp only [clip]
  omega

end WholeWord
end Span

/-- The words that are listed in a stretch are the parts in it of the words of the text. -/
theorem mem_wordsFrom_slice_iff {t : Text} {lo hi : Nat} (hlohi : lo < hi) {entry : Nat × Text} :
    entry ∈ wordsFrom lo [] (t.slice lo hi) ↔
      ∃ s : Span Nat, s.WholeWord t ∧ s.overlaps ⟨lo, hi⟩ = true ∧
        entry = ((s.clip ⟨lo, hi⟩).start, (s.clip ⟨lo, hi⟩).of t) := by
  have hlisted : ∀ found : Nat × Text, found ∈ wordsFrom 0 [] (t.slice lo hi) ↔
      ∃ part : Span Nat, part.WholeWord (t.slice lo hi) ∧
        found = (part.start, part.of (t.slice lo hi)) := by
    intro found
    rw [mem_wordsFrom_iff (.start fun i hi ↦ absurd hi (Nat.succ_ne_zero i)) List.drop_zero]
    simp
  -- a part reads the same in the stretch and, moved on, in the text
  have hsame : ∀ part : Span Nat, part.WholeWord (t.slice lo hi) →
      (part.shift lo).of t = part.of (t.slice lo hi) := by
    intro part hpart
    have hle := hpart.stop_le
    rw [Text.length_slice] at hle
    have hlt := hpart.start_lt_stop
    rw [Span.of, Span.of, Text.slice_slice t _ (by omega)]
    simp only [Span.shift, Nat.add_comm]
  have hmoved : wordsFrom (0 + lo) [] (t.slice lo hi) = _ :=
    wordsFrom_add 0 lo (t.slice lo hi) (Nat.zero_le _)
  rw [Nat.zero_add] at hmoved
  rw [hmoved, List.mem_map]
  constructor
  · rintro ⟨found, hfound, rfl⟩
    obtain ⟨part, hpart, rfl⟩ := (hlisted found).1 hfound
    obtain ⟨s, hs, hmeet, hclip⟩ := hpart.exists_of_slice
    exact ⟨s, hs, hmeet, by rw [← hclip, hsame part hpart]; rfl⟩
  · rintro ⟨s, hs, hmeet, rfl⟩
    obtain ⟨part, hpart, hclip⟩ := hs.exists_slice hlohi hmeet
    exact ⟨_, (hlisted _).2 ⟨part, hpart, rfl⟩, by rw [← hclip, hsame part hpart]; rfl⟩

/-! ## The first of the nearest -/

theorem leastBy_eq_none_iff {α : Type} {measure : α → Nat} {as : List α} :
    leastBy measure as = none ↔ as = [] := by
  cases as with
  | nil => simp [leastBy]
  | cons a as =>
    simp only [leastBy, reduceCtorEq, iff_false]
    split
    · split <;> simp
    · simp

/-- What is found is less than all before it, and not more than any after it. -/
theorem exists_leastBy_eq {α : Type} {measure : α → Nat} {as : List α} {a : α}
    (h : leastBy measure as = some a) : ∃ before after, as = before ++ a :: after ∧
      (∀ b ∈ before, measure a < measure b) ∧ ∀ b ∈ after, measure a ≤ measure b := by
  induction as generalizing a with
  | nil => simp [leastBy] at h
  | cons first rest ih =>
    rw [leastBy] at h
    split at h
    · next found hfound =>
      obtain ⟨before, after, rfl, hbefore, hafter⟩ := ih hfound
      split at h
      · next hless =>
        obtain rfl := Option.some.inj h
        exact ⟨first :: before, after, rfl, List.forall_mem_cons.2 ⟨hless, hbefore⟩, hafter⟩
      · next hnot =>
        obtain rfl := Option.some.inj h
        refine ⟨[], _, rfl, by simp, fun b hb ↦ ?_⟩
        rcases List.mem_append.1 hb with hb | hb
        · have := hbefore b hb
          omega
        · rcases List.mem_cons.1 hb with rfl | hb
          · omega
          · have := hafter b hb
            omega
    · next hnone =>
      obtain rfl := Option.some.inj h
      exact ⟨[], rest, rfl, by simp, by simp [leastBy_eq_none_iff.1 hnone]⟩

/-- In a list that is ordered by `r`, what is found comes first among the least. -/
theorem leastBy_eq_some {α : Type} {measure : α → Nat} {r : α → α → Prop} {as : List α} {a : α}
    (h : leastBy measure as = some a) (hr : as.Pairwise r) :
    a ∈ as ∧ ∀ b ∈ as, measure a ≤ measure b ∧ (measure b = measure a → b = a ∨ r a b) := by
  obtain ⟨before, after, rfl, hbefore, hafter⟩ := exists_leastBy_eq h
  obtain ⟨-, hfollowing, -⟩ := List.pairwise_append.1 hr
  refine ⟨by simp, fun b hb ↦ ?_⟩
  rcases List.mem_append.1 hb with hb | hb
  · have hless := hbefore b hb
    exact ⟨hless.le, fun heq ↦ by omega⟩
  · rcases List.mem_cons.1 hb with rfl | hb
    · exact ⟨le_rfl, fun _ ↦ .inl rfl⟩
    · exact ⟨hafter b hb, fun _ ↦ .inr ((List.pairwise_cons.1 hfollowing).1 b hb)⟩

/-- The word nearest to a position: no word is nearer, and none that starts before it is as near. -/
structure Span.NearestWord (s : Span Nat) (t : Text) (pos : Nat) : Prop where
  wholeWord : s.WholeWord t
  least : ∀ other : Span Nat, other.WholeWord t → s.distance pos ≤ other.distance pos
  first : ∀ other : Span Nat, other.WholeWord t → other.distance pos = s.distance pos →
    s.start ≤ other.start

theorem Span.NearestWord.eq {s other : Span Nat} {t : Text} {pos : Nat} (h : s.NearestWord t pos)
    (hother : other.NearestWord t pos) : s = other := by
  have hdistance := Nat.le_antisymm (h.least other hother.wholeWord)
    (hother.least s h.wholeWord)
  exact h.wholeWord.eq_of_start_eq hother.wholeWord (Nat.le_antisymm
    (h.first other hother.wholeWord hdistance.symm) (hother.first s h.wholeWord hdistance))

theorem wordNear?_natCast (t : Text) (pos window : Nat) :
    wordNear? t pos window
      = (leastBy (fun entry ↦ wordGap pos entry.1 entry.2)
          (wordsFrom (pos - window) [] (t.slice (pos - window) (pos + window)))).map (·.2) := by
  have hstart : (max 0 ((pos : Int) - window)).toNat = pos - window := by omega
  have hstop : (pos : Int) + window = ((pos + window : Nat) : Int) := rfl
  simp only [wordNear?, hstart]
  rw [hstop, Text.sliceAt_natCast]

/-- What is returned is the part in the window of the word nearest to the position. -/
theorem exists_nearestWord {t w : Text} {pos window : Nat} (hwindow : 0 < window)
    (h : wordNear? t pos window = some w) :
    ∃ s : Span Nat, s.NearestWord t pos ∧ s.overlaps ⟨pos - window, pos + window⟩ = true ∧
      w = (s.clip ⟨pos - window, pos + window⟩).of t := by
  rw [wordNear?_natCast] at h
  obtain ⟨entry, hleast, rfl⟩ := Option.map_eq_some_iff.1 h
  obtain ⟨hmem, hall⟩ := leastBy_eq_some hleast (pairwise_wordsFrom _ [] _ (Nat.zero_le _))
  obtain ⟨s, hs, hmeet, rfl⟩ := (mem_wordsFrom_slice_iff (by omega)).1 hmem
  have hnear := (Span.overlaps_window_iff hs.start_lt_stop hwindow).1 hmeet
  have hseen : ∀ other : Span Nat, other.WholeWord t →
      other.overlaps ⟨pos - window, pos + window⟩ = true →
        s.distance pos ≤ other.distance pos ∧
          (other.distance pos = s.distance pos → s.start ≤ other.start) := by
    intro other hother hmeets
    have hlisted := (mem_wordsFrom_slice_iff (by omega)).2 ⟨other, hother, hmeets, rfl⟩
    obtain ⟨hle, hties⟩ := hall _ hlisted
    rw [hs.wordGap_clip hmeet (by omega) (by omega),
      hother.wordGap_clip hmeets (by omega) (by omega)] at hle hties
    refine ⟨hle, fun heq ↦ ?_⟩
    by_contra hbefore
    have hlt := hs.clip_start_lt hother (Nat.lt_of_not_le hbefore) hmeets
    rcases hties heq with hsame | hlater
    · exact hlt.ne (congrArg Prod.fst hsame)
    · exact Nat.lt_asymm hlt hlater
  -- a word that is not in the window is farther away than one that is
  have hfar : ∀ other : Span Nat, other.WholeWord t →
      other.overlaps ⟨pos - window, pos + window⟩ = false →
        s.distance pos < other.distance pos := by
    intro other hother hmisses
    have hnot : ¬ other.distance pos < window := by
      rw [← Span.overlaps_window_iff hother.start_lt_stop hwindow, hmisses]
      exact Bool.false_ne_true
    omega
  refine ⟨s, ⟨hs, fun other hother ↦ ?_, fun other hother heq ↦ ?_⟩, hmeet, rfl⟩
  · cases hmeets : other.overlaps ⟨pos - window, pos + window⟩ with
    | true => exact (hseen other hother hmeets).1
    | false => exact (hfar other hother hmeets).le
  · cases hmeets : other.overlaps ⟨pos - window, pos + window⟩ with
    | true => exact (hseen other hother hmeets).2 heq
    | false => exact absurd heq (hfar other hother hmeets).ne'

theorem wordNear?_eq_none_iff {t : Text} {pos window : Nat} (hwindow : 0 < window) :
    wordNear? t pos window = none
      ↔ ∀ c ∈ t.slice (pos - window) (pos + window), isWordChar c = false := by
  rw [wordNear?_natCast, Option.map_eq_none_iff, leastBy_eq_none_iff,
    List.eq_nil_iff_forall_not_mem]
  constructor
  · intro h c hc
    rw [Bool.eq_false_iff]
    intro hword
    obtain ⟨i, hi⟩ := List.mem_iff_getElem?.1 hc
    have hat : (t.slice (pos - window) (pos + window)).WordCharAt i := ⟨c, hi, hword⟩
    obtain ⟨part, hpart, -⟩ := hat.exists_wholeWord
    obtain ⟨s, hs, hmeet, -⟩ := hpart.exists_of_slice
    exact h _ ((mem_wordsFrom_slice_iff (by omega)).2 ⟨s, hs, hmeet, rfl⟩)
  · intro h entry hmem
    obtain ⟨s, hs, hmeet, -⟩ := (mem_wordsFrom_slice_iff (by omega)).1 hmem
    obtain ⟨c, hc, hword⟩ := hs.exists_mem_slice (by omega) hmeet
    exact absurd (h c hc) (by simp [hword])

/-- A stretch shows all of a word exactly when the word lies in it. -/
theorem Span.WholeWord.of_clip_eq_iff {s around : Span Nat} {t : Text} (h : s.WholeWord t)
    (hmeet : s.overlaps around = true) :
    (s.clip around).of t = s.of t ↔ around.start ≤ s.start ∧ s.stop ≤ around.stop := by
  obtain ⟨hlt, hgt⟩ := overlaps_iff.1 hmeet
  have hs := h.start_lt_stop
  have hle := h.stop_le
  constructor
  · intro heq
    have hlength := congrArg List.length heq
    simp only [of, clip, Text.length_slice] at hlength
    omega
  · rintro ⟨hstart, hstop⟩
    rw [clip, Nat.max_eq_left hstart, Nat.min_eq_left hstop]

/-- **The word nearest to a position**, as far as the window shows it.  A word is returned exactly
when the window has a word character in it.  It comes from the word of the text that is nearest to
the position, the first one of several, but is that word only if all of it lies in the window. -/
theorem wordNear?_eq_some_iff {t : Text} {pos window : Nat} (hwindow : 1 ≤ window) :
    (∀ w, wordNear? t pos window = some w ↔
      ∃ s : Span Nat, s.NearestWord t pos ∧ s.overlaps ⟨pos - window, pos + window⟩ = true ∧
        w = (s.clip ⟨pos - window, pos + window⟩).of t ∧
        (w = s.of t ↔ pos - window ≤ s.start ∧ s.stop ≤ pos + window)) ∧
    (wordNear? t pos window = none
      ↔ ∀ c ∈ t.slice (pos - window) (pos + window), isWordChar c = false) := by
  refine ⟨fun w ↦ ⟨fun h ↦ ?_, ?_⟩, wordNear?_eq_none_iff hwindow⟩
  · obtain ⟨s, hs, hmeet, rfl⟩ := exists_nearestWord hwindow h
    exact ⟨s, hs, hmeet, rfl, hs.wholeWord.of_clip_eq_iff hmeet⟩
  · rintro ⟨s, hs, hmeet, rfl, -⟩
    cases hfound : wordNear? t pos window with
    | none =>
      obtain ⟨c, hc, hword⟩ := hs.wholeWord.exists_mem_slice (by omega) hmeet
      exact absurd ((wordNear?_eq_none_iff hwindow).1 hfound c hc) (by simp [hword])
    | some found =>
      obtain ⟨other, hother, -, rfl⟩ := exists_nearestWord hwindow hfound
      rw [hs.eq hother]

/-- In `{{ uppercase }}`, with the cursor before the `c` and two characters to see on each side:
the word is found, and only `erca` of it is shown. -/
theorem wordNear?_eq_some_iff_cut :
    let t : Text := BlockKind.expression.spaced "uppercase".toList
    1 ≤ 2 ∧ wordNear? t 8 2 = some "erca".toList ∧
      ∃ s : Span Nat, s.NearestWord t 8 ∧ s.overlaps ⟨6, 10⟩ = true ∧
        "erca".toList = (s.clip ⟨6, 10⟩).of t ∧
        ("erca".toList = s.of t ↔ 6 ≤ s.start ∧ s.stop ≤ 10) := by
  intro t
  have hwindow : 1 ≤ 2 := by decide
  have hfound : wordNear? t 8 2 = some "erca".toList := by decide +kernel
  exact ⟨hwindow, hfound, ((wordNear?_eq_some_iff hwindow).1 _).1 hfound⟩

/-- In `uppercase`, with the cursor at its start and five characters to see: there is no word
`upper` in the text. -/
theorem wordNear?_cut :
    let t : Text := "uppercase".toList
    wordNear? t 0 5 = some "upper".toList ∧
      ∀ s : Span Nat, s.WholeWord t → s.of t ≠ "upper".toList := by
  intro t
  have hwhole : Span.WholeWord ⟨0, 9⟩ t := by
    have hword : ∀ i < 9, t.WordCharAt i := by decide +kernel
    exact ⟨by decide, fun i _ hi ↦ hword i hi, fun i hi ↦ absurd hi (Nat.succ_ne_zero i),
      by decide +kernel⟩
  refine ⟨by decide +kernel, fun s hs hof ↦ ?_⟩
  have hlt := hs.start_lt_stop
  have hle : s.stop ≤ 9 := hs.stop_le
  have hstart : s.start = 0 := by
    by_contra hne
    have hafter : 9 ≤ s.start := hwhole.stop_le_start hs (Nat.pos_of_ne_zero hne)
    omega
  rw [hs.eq_of_start_eq hwhole hstart] at hof
  exact absurd hof (by decide)

end TemplateAssist
