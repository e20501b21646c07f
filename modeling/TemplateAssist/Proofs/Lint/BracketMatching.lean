import TemplateAssist.Proofs.Lint.Pairing

/-!
# Brackets, matched

The check of brackets keeps a depth and the offset at which the depth last left zero.  This file
makes explicit what it thereby follows: a matching of closing with opening brackets of one kind, by
their places in the text.

* `Bracket.Nearest` is the law of the matching: every closing bracket goes with the nearest opening
  one before it that is not matched yet.  `Bracket.matching` is computed with a stack, and keeps
  the law while it reads one character after the other (`Bracket.Reads`).
* `Pairing.map_strays_append_brackets` relates the counter to the stack: the depth is its height,
  and the remembered offset is that of its bottom.
* `Bracket.balanced_iff` says when the counter comes out at zero with nothing in the way.
* `Pairing.pairing_matching` puts together what is reported for quotes and brackets.
-/

set_option autoImplicit false

namespace TemplateAssist

/-! ## The places of a character -/

namespace Text

/-- The offsets at which a character stands in a text, in order. -/
def places (c : Char) (t : Text) : List Nat := (List.range t.length).filter fun i ↦ t[i]? = some c

theorem mem_places {c : Char} {t : Text} {i : Nat} : i ∈ t.places c ↔ t[i]? = some c := by
  rw [places, List.mem_filter, List.mem_range, decide_eq_true_eq, and_iff_right_iff_imp]
  exact fun h ↦ (List.getElem?_eq_some_iff.1 h).1

theorem places_concat (c d : Char) (t : Text) :
    places c (t ++ [d]) = t.places c ++ if d = c then [t.length] else [] := by
  have hbefore : (List.range t.length).filter (fun i ↦ (t ++ [d])[i]? = some c) = t.places c := by
    refine List.filter_congr fun i hi ↦ ?_
    rw [List.getElem?_append_left (List.mem_range.1 hi)]
  rw [places, List.length_append, List.length_singleton, List.range_succ, List.filter_append,
    hbefore]
  by_cases h : d = c <;> simp [h]

theorem pairwise_places (c : Char) (t : Text) : (t.places c).Pairwise (· < ·) :=
  List.pairwise_lt_range.filter _

end Text

namespace Bracket

/-! ## Balanced words by the depth counter -/

/-- A pair put anywhere into a balanced word. -/
theorem Word.insert {b : Bracket} {w : Text} (h : b.Word w) {u v : Text} (hw : w = u ++ v) :
    b.Word (u ++ b.opening :: b.closing :: v) := by
  induction h generalizing u v with
  | nil =>
    obtain ⟨rfl, rfl⟩ := List.append_eq_nil_iff.1 hw.symm
    exact .pair .nil .nil
  | @pair inside after hinside hafter ihinside ihafter =>
    cases u with
    | nil =>
      rw [List.nil_append] at hw
      exact hw ▸ .pair .nil (.pair hinside hafter)
    | cons c u =>
      rw [List.cons_append, List.cons.injEq, List.append_eq_append_iff] at hw
      obtain ⟨rfl, ⟨middle, rfl, hv⟩ | ⟨middle, rfl, rfl⟩⟩ := hw
      · cases middle with
        | nil =>
          have hpair := Word.pair (ihinside (List.append_nil inside).symm) hafter
          rw [List.nil_append] at hv
          simpa [hv] using hpair
        | cons d middle =>
          rw [List.cons_append, List.cons.injEq] at hv
          obtain ⟨rfl, rfl⟩ := hv
          simpa using Word.pair hinside (ihafter rfl)
      · simpa using Word.pair (ihinside rfl) hafter

/-- Openers for the depth make up a balanced word with a text that brings the depth to zero. -/
theorem word_of_depth? {b : Bracket} {depth : Nat} {t : Text} (h : b.depth? depth t = some 0) :
    b.Word (List.replicate depth b.opening ++ t.filter b.has) := by
  induction t generalizing depth with
  | nil =>
    obtain rfl := Option.some.inj h
    exact .nil
  | cons c t ih =>
    by_cases ho : c = b.opening
    · subst ho
      rw [depth?_opening] at h
      have hword := ih h
      rw [List.replicate_succ', List.append_assoc] at hword
      rwa [List.filter_cons_of_pos (by simp [has])]
    · by_cases hc : c = b.closing
      · subst hc
        cases depth with
        | zero =>
          rw [depth?, if_neg ho, if_pos rfl] at h
          cases h
        | succ depth =>
          rw [depth?_closing] at h
          have hword := (ih h).insert rfl
          rw [List.filter_cons_of_pos (by simp [has]), List.replicate_succ', List.append_assoc]
          exact hword
      · rw [depth?_other _ _ ho hc] at h
        rw [List.filter_cons_of_neg (by simp [has, ho, hc])]
        exact ih h

/-- **Brackets of one kind are balanced** exactly when the depth counter comes out at zero. -/
theorem balanced_iff {b : Bracket} {t : Text} : b.Balanced t ↔ b.depth? 0 t = some 0 :=
  ⟨fun h ↦ depth?_of_balanced h 0, word_of_depth?⟩

/-! ## The law of the matching -/

/-- Before place `j`, the opening bracket at place `i` is not matched yet. -/
def StillOpen (b : Bracket) (t : Text) (pairs : List (Nat × Nat)) (i j : Nat) : Prop :=
  i < j ∧ t[i]? = some b.opening ∧ ∀ k < j, (i, k) ∉ pairs

/-- The pairs match every closing bracket with the nearest opening one before it that is not
matched yet, if there is one, and nothing else. -/
def Nearest (b : Bracket) (t : Text) (pairs : List (Nat × Nat)) : Prop :=
  ∀ i j, (i, j) ∈ pairs ↔ t[j]? = some b.closing ∧ StillOpen b t pairs i j ∧
    ∀ i', StillOpen b t pairs i' j → i' ≤ i

/-- The places of the opening brackets that are not matched, in order. -/
def unmatchedOpeners (b : Bracket) (t : Text) (pairs : List (Nat × Nat)) : List Nat :=
  (t.places b.opening).filter (· ∉ pairs.map Prod.fst)

/-- The places of the closing brackets that are not matched, in order. -/
def unmatchedClosers (b : Bracket) (t : Text) (pairs : List (Nat × Nat)) : List Nat :=
  (t.places b.closing).filter (· ∉ pairs.map Prod.snd)

/-! ## Matching with a stack -/

/-- What reading a text for brackets of one kind has led to. -/
structure Trace where
  /-- How many characters have been read. -/
  count : Nat
  /-- The places of the opening brackets that are not matched yet, the nearest first. -/
  stack : List Nat
  /-- The places of the closing brackets that met no opening one, in order. -/
  strays : List Nat
  /-- The places of the brackets that match, so far. -/
  pairs : List (Nat × Nat)

/-- Before the first character. -/
def Trace.start : Trace := ⟨0, [], [], []⟩

/-- One more character has been read. -/
def Trace.read (b : Bracket) (s : Trace) (c : Char) : Trace :=
  if c = b.opening then ⟨s.count + 1, s.count :: s.stack, s.strays, s.pairs⟩
  else if c = b.closing then
    match s.stack with
    | [] => ⟨s.count + 1, [], s.strays ++ [s.count], s.pairs⟩
    | i :: below => ⟨s.count + 1, below, s.strays, s.pairs ++ [(i, s.count)]⟩
  else ⟨s.count + 1, s.stack, s.strays, s.pairs⟩

/-- The places of the brackets of one kind that match. -/
def matching (b : Bracket) (t : Text) : List (Nat × Nat) := (t.foldl (Trace.read b) .start).pairs

example : parenthesis.matching "(a)b)((c)".toList = [(0, 2), (6, 8)] := by decide

/-- What reading a character can do. -/
theorem Trace.read_cases (b : Bracket) (s : Trace) (c : Char) :
    (c = b.opening ∧ s.read b c = ⟨s.count + 1, s.count :: s.stack, s.strays, s.pairs⟩) ∨
    (∃ i below, c = b.closing ∧ s.stack = i :: below ∧
      s.read b c = ⟨s.count + 1, below, s.strays, s.pairs ++ [(i, s.count)]⟩) ∨
    (c = b.closing ∧ s.stack = [] ∧
      s.read b c = ⟨s.count + 1, [], s.strays ++ [s.count], s.pairs⟩) ∨
    (c ≠ b.opening ∧ c ≠ b.closing ∧
      s.read b c = ⟨s.count + 1, s.stack, s.strays, s.pairs⟩) := by
  by_cases ho : c = b.opening
  · exact .inl ⟨ho, by rw [read, if_pos ho]⟩
  · by_cases hc : c = b.closing
    · cases hs : s.stack with
      | nil => exact .inr (.inr (.inl ⟨hc, rfl, by simp only [read, if_neg ho, if_pos hc, hs]⟩))
      | cons i below =>
        exact .inr (.inl ⟨i, below, hc, rfl, by simp only [read, if_neg ho, if_pos hc, hs]⟩)
    · exact .inr (.inr (.inr ⟨ho, hc, by rw [read, if_neg ho, if_neg hc]⟩))

/-- What is known after reading the text `read`. -/
structure Reads (b : Bracket) (read : Text) (s : Trace) : Prop where
  count_eq : s.count = read.length
  nearest : Nearest b read s.pairs
  stack_eq : s.stack.reverse = unmatchedOpeners b read s.pairs
  strays_eq : s.strays = unmatchedClosers b read s.pairs

section

variable {b : Bracket} {read : Text} {s : Trace} {c : Char} {pairs later : List (Nat × Nat)}

theorem Nearest.lt_length (h : Nearest b read pairs) {i j : Nat} (hp : (i, j) ∈ pairs) :
    i < j ∧ j < read.length := by
  obtain ⟨hclosing, ⟨hlt, -⟩, -⟩ := (h i j).1 hp
  exact ⟨hlt, (List.getElem?_eq_some_iff.1 hclosing).1⟩

theorem Nearest.not_mem_fst (h : Nearest b read pairs) {k : Nat} (hk : read.length ≤ k) :
    k ∉ pairs.map Prod.fst := by
  intro hmem
  obtain ⟨⟨i, j⟩, hp, rfl⟩ := List.mem_map.1 hmem
  have hlt := h.lt_length hp
  omega

theorem Nearest.not_mem_snd (h : Nearest b read pairs) {k : Nat} (hk : read.length ≤ k) :
    k ∉ pairs.map Prod.snd := by
  intro hmem
  obtain ⟨⟨i, j⟩, hp, rfl⟩ := List.mem_map.1 hmem
  have hlt := h.lt_length hp
  omega

/-- Up to the end of what was read, it does not matter how the text and the matching go on. -/
theorem stillOpen_concat (hlater : ∀ p ∈ later, read.length ≤ p.2) {i j : Nat}
    (hj : j ≤ read.length) :
    StillOpen b (read ++ [c]) (pairs ++ later) i j ↔ StillOpen b read pairs i j := by
  refine and_congr_right fun hij ↦ and_congr ?_ (forall₂_congr fun k hk ↦ ?_)
  · rw [List.getElem?_append_left (by omega)]
  · rw [List.mem_append, not_or, and_iff_left_iff_imp]
    intro _ hmem
    have hle := hlater _ hmem
    exact absurd hk (by simp only at hle; omega)

/-- The law goes on if it holds of the pairs that are added for the next character. -/
theorem Nearest.concat (h : Nearest b read pairs)
    (hlater : ∀ i j, (i, j) ∈ later ↔ j = read.length ∧ c = b.closing ∧
      StillOpen b read pairs i read.length ∧
        ∀ i', StillOpen b read pairs i' read.length → i' ≤ i) :
    Nearest b (read ++ [c]) (pairs ++ later) := by
  have hle : ∀ p ∈ later, read.length ≤ p.2 :=
    fun p hp ↦ Nat.le_of_eq ((hlater p.1 p.2).1 hp).1.symm
  intro i j
  rw [List.mem_append, hlater, h i j]
  rcases Nat.lt_trichotomy j read.length with hj | rfl | hj
  · rw [List.getElem?_append_left hj, stillOpen_concat hle hj.le]
    simp only [stillOpen_concat hle hj.le, hj.ne, false_and, or_false]
  · have hnone : read[read.length]? = none := List.getElem?_eq_none (Nat.le_refl _)
    simp only [stillOpen_concat hle (Nat.le_refl _), hnone, List.getElem?_concat_length,
      Option.some.injEq, reduceCtorEq, false_and, false_or, true_and]
  · have hnone : read[j]? = none := List.getElem?_eq_none hj.le
    have hnone' : (read ++ [c])[j]? = none :=
      List.getElem?_eq_none (by simpa using Nat.succ_le_of_lt hj)
    simp only [hnone, hnone', reduceCtorEq, false_and, hj.ne', or_false]

theorem Nearest.concat_unmatched (h : Nearest b read pairs)
    (hnone : c = b.closing → ∀ i, ¬ StillOpen b read pairs i read.length) :
    Nearest b (read ++ [c]) pairs := by
  rw [← List.append_nil pairs]
  refine h.concat fun i j ↦ iff_of_false List.not_mem_nil ?_
  rintro ⟨-, hc, hopen, -⟩
  exact hnone hc i hopen

theorem Reads.mem_stack (h : Reads b read s) {i : Nat} :
    i ∈ s.stack ↔ StillOpen b read s.pairs i read.length := by
  rw [← List.mem_reverse, h.stack_eq, unmatchedOpeners, List.mem_filter, Text.mem_places,
    decide_eq_true_eq]
  constructor
  · rintro ⟨hopening, hi⟩
    exact ⟨(List.getElem?_eq_some_iff.1 hopening).1, hopening,
      fun k _ hk ↦ hi (List.mem_map.2 ⟨(i, k), hk, rfl⟩)⟩
  · rintro ⟨-, hopening, hi⟩
    refine ⟨hopening, fun hmem ↦ ?_⟩
    obtain ⟨⟨i, k⟩, hk, rfl⟩ := List.mem_map.1 hmem
    exact hi k (h.nearest.lt_length hk).2 hk

/-- The bracket on top of the stack is the nearest. -/
theorem Reads.lt_of_mem_below (h : Reads b read s) {i : Nat} {below : List Nat}
    (hs : s.stack = i :: below) {k : Nat} (hk : k ∈ below) : k < i := by
  have hsorted : (unmatchedOpeners b read s.pairs).Pairwise (· < ·) :=
    (Text.pairwise_places _ _).filter _
  rw [← h.stack_eq, hs, List.reverse_cons, List.pairwise_append] at hsorted
  exact hsorted.2.2 k (List.mem_reverse.2 hk) i (List.mem_singleton.2 rfl)

theorem unmatchedOpeners_concat (h : Nearest b read pairs) :
    unmatchedOpeners b (read ++ [c]) pairs
      = unmatchedOpeners b read pairs ++ if c = b.opening then [read.length] else [] := by
  rw [unmatchedOpeners, Text.places_concat, List.filter_append, ← unmatchedOpeners]
  split
  · rw [List.filter_cons_of_pos (by simpa using h.not_mem_fst (Nat.le_refl _))]
    rfl
  · rfl

theorem unmatchedClosers_concat (h : Nearest b read pairs) :
    unmatchedClosers b (read ++ [c]) pairs
      = unmatchedClosers b read pairs ++ if c = b.closing then [read.length] else [] := by
  rw [unmatchedClosers, Text.places_concat, List.filter_append, ← unmatchedClosers]
  split
  · rw [List.filter_cons_of_pos (by simpa using h.not_mem_snd (Nat.le_refl _))]
    rfl
  · rfl

/-- One more pair takes away its opening bracket. -/
theorem unmatchedOpeners_pair (b : Bracket) (t : Text) (pairs : List (Nat × Nat)) (i j : Nat) :
    unmatchedOpeners b t (pairs ++ [(i, j)]) = (unmatchedOpeners b t pairs).filter (· ≠ i) := by
  rw [unmatchedOpeners, unmatchedOpeners, List.filter_filter]
  refine List.filter_congr fun k _ ↦ ?_
  simp [and_comm, List.mem_append, -List.mem_map, -Prod.exists]

theorem unmatchedClosers_pair (b : Bracket) (t : Text) (pairs : List (Nat × Nat)) (i j : Nat) :
    unmatchedClosers b t (pairs ++ [(i, j)]) = (unmatchedClosers b t pairs).filter (· ≠ j) := by
  rw [unmatchedClosers, unmatchedClosers, List.filter_filter]
  refine List.filter_congr fun k _ ↦ ?_
  simp [and_comm, List.mem_append, -List.mem_map, -Prod.exists]

theorem reads_start : Reads b [] .start where
  count_eq := rfl
  nearest i j := iff_of_false List.not_mem_nil (by simp)
  stack_eq := rfl
  strays_eq := rfl

/-- A closing bracket is matched with the one on top of the stack. -/
theorem Reads.closes (h : Reads b read s) {i : Nat} {below : List Nat} (hs : s.stack = i :: below)
    (hc : c = b.closing) :
    Reads b (read ++ [c]) ⟨s.count + 1, below, s.strays, s.pairs ++ [(i, s.count)]⟩ := by
  have hi : StillOpen b read s.pairs i read.length := h.mem_stack.1 (by rw [hs]; simp)
  have hle : ∀ k, StillOpen b read s.pairs k read.length → k ≤ i := by
    intro k hk
    have hmem := h.mem_stack.2 hk
    rw [hs, List.mem_cons] at hmem
    rcases hmem with rfl | hmem
    · exact Nat.le_refl _
    · exact Nat.le_of_lt (h.lt_of_mem_below hs hmem)
  have hbelow : ∀ k ∈ below, k ≠ i := fun k hk ↦ Nat.ne_of_lt (h.lt_of_mem_below hs hk)
  refine ⟨by simp [h.count_eq], ?_, ?_, ?_⟩
  · refine h.nearest.concat fun k j ↦ ?_
    rw [List.mem_singleton, Prod.mk.injEq, h.count_eq]
    constructor
    · rintro ⟨rfl, rfl⟩
      exact ⟨rfl, hc, hi, hle⟩
    · rintro ⟨rfl, -, hk, hmax⟩
      exact ⟨Nat.le_antisymm (hle k hk) (hmax i hi), rfl⟩
  · rw [unmatchedOpeners_pair, unmatchedOpeners_concat h.nearest,
      if_neg (hc ▸ b.closing_ne_opening), List.append_nil, ← h.stack_eq, hs, List.reverse_cons,
      List.filter_append, List.filter_eq_self.2 (by simpa using hbelow)]
    simp
  · have hold : ∀ j ∈ s.strays, j ≠ s.count := by
      intro j hj
      rw [h.strays_eq, unmatchedClosers, List.mem_filter, Text.mem_places] at hj
      rw [h.count_eq]
      exact Nat.ne_of_lt (List.getElem?_eq_some_iff.1 hj.1).1
    rw [unmatchedClosers_pair, unmatchedClosers_concat h.nearest, if_pos hc, ← h.strays_eq,
      ← h.count_eq, List.filter_append, List.filter_eq_self.2 (by simpa using hold)]
    simp

theorem Reads.concat (h : Reads b read s) (c : Char) : Reads b (read ++ [c]) (s.read b c) := by
  obtain ⟨rfl, hr⟩ | ⟨i, below, hc, hs, hr⟩ | ⟨hc, hs, hr⟩ | ⟨ho, hc, hr⟩ := s.read_cases b c
  · rw [hr]
    refine ⟨by simp [h.count_eq], h.nearest.concat_unmatched ?_, ?_, ?_⟩
    · intro hc
      exact absurd hc.symm b.closing_ne_opening
    · rw [unmatchedOpeners_concat h.nearest, if_pos rfl, List.reverse_cons, h.stack_eq, h.count_eq]
    · rw [unmatchedClosers_concat h.nearest, if_neg b.closing_ne_opening.symm, List.append_nil,
        ← h.strays_eq]
  · rw [hr]
    exact h.closes hs hc
  · rw [hr]
    refine ⟨by simp [h.count_eq], h.nearest.concat_unmatched ?_, ?_, ?_⟩
    · intro _ i hi
      have hmem := h.mem_stack.2 hi
      rw [hs] at hmem
      cases hmem
    · rw [unmatchedOpeners_concat h.nearest, if_neg (hc ▸ b.closing_ne_opening), List.append_nil,
        ← h.stack_eq, hs]
    · rw [unmatchedClosers_concat h.nearest, if_pos hc, ← h.strays_eq, h.count_eq]
  · rw [hr]
    refine ⟨by simp [h.count_eq], h.nearest.concat_unmatched fun h ↦ absurd h hc, ?_, ?_⟩
    · rw [unmatchedOpeners_concat h.nearest, if_neg ho, List.append_nil, ← h.stack_eq]
    · rw [unmatchedClosers_concat h.nearest, if_neg hc, List.append_nil, ← h.strays_eq]

theorem Reads.append (h : Reads b read s) (rest : Text) :
    Reads b (read ++ rest) (rest.foldl (Trace.read b) s) := by
  induction rest generalizing read s with
  | nil => rwa [List.append_nil]
  | cons c rest ih =>
    rw [List.append_cons]
    exact ih (h.concat c)

end

end Bracket

namespace Pairing

/-! ## What is reported -/

/-- The finding for quotes of one kind: if their number is odd, the last one is marked. -/
def quoteReport (base : Nat) (content : Text) (quote : Quote) : List Finding :=
  if content.count quote.char % 2 = 1 then
    ((content.places quote.char).getLast?.map fun i ↦
      ⟨.single (base + i), .unmatchedQuote quote, .error⟩).toList
  else []

/-- The finding for a closing bracket that is not matched. -/
def strayReport (base : Nat) (bracket : Bracket) (j : Nat) : Finding :=
  ⟨.single (base + j), .unexpectedClosing bracket, .error⟩

/-- The finding for an opening bracket that is not matched. -/
def openReport (base : Nat) (bracket : Bracket) (i : Nat) : Finding :=
  ⟨.single (base + i), .unmatchedOpening bracket, .error⟩

/-- The findings for brackets of one kind, given a matching: the closing ones that are not matched,
and then the first opening one that is not. -/
def bracketReport (base : Nat) (content : Text) (bracket : Bracket) (pairs : List (Nat × Nat)) :
    List Finding :=
  (bracket.unmatchedClosers content pairs).map (strayReport base bracket) ++
    ((bracket.unmatchedOpeners content pairs).head?.map (openReport base bracket)).toList

/-- The findings for an expression or a statement. -/
def report (b : Block) : List Finding :=
  Quote.all.flatMap (quoteReport b.contentOffset b.content) ++
    Bracket.all.flatMap fun bracket ↦
      bracketReport b.contentOffset b.content bracket (bracket.matching b.content)

theorem lastIndex_concat_self (c : Char) (t : Text) : lastIndex c (t ++ [c]) = t.length := by
  simp [lastIndex]

theorem lastIndex_concat_of_ne {c d : Char} (h : d ≠ c) (t : Text) :
    lastIndex c (t ++ [d]) = lastIndex c t := by
  simp only [lastIndex, List.reverse_append, List.reverse_singleton, List.singleton_append,
    List.idxOf_cons_ne _ h, List.length_append, List.length_singleton]
  omega

/-- The last of all places is the one that is marked. -/
theorem getLast?_places {c : Char} {t : Text} (h : c ∈ t) :
    (t.places c).getLast? = some (lastIndex c t) := by
  induction t using List.reverseRecOn with
  | nil => cases h
  | append_singleton t d ih =>
    rw [Text.places_concat]
    by_cases hd : d = c
    · rw [if_pos hd, hd, lastIndex_concat_self, List.getLast?_append]
      rfl
    · have hmem : c ∈ t := by simpa [Ne.symm hd] using h
      rw [if_neg hd, List.append_nil, lastIndex_concat_of_ne hd, ih hmem]

theorem quotes_eq_quoteReport (base : Nat) (content : Text) (quote : Quote) :
    quotes base content quote = quoteReport base content quote := by
  rw [quotes, quoteReport]
  split
  · next hodd =>
    have hmem : quote.char ∈ content := List.count_pos_iff.1 (by omega)
    rw [getLast?_places hmem]
    rfl
  · rfl

theorem brackets_opening (bracket : Bracket) (offset depth first : Nat) (rest : Text) :
    brackets bracket offset depth first (bracket.opening :: rest)
      = brackets bracket (offset + 1) (depth + 1) (if depth = 0 then offset else first) rest := by
  cases depth <;> rw [brackets, if_pos rfl]

theorem brackets_other {bracket : Bracket} {c : Char} (offset depth first : Nat) (rest : Text)
    (ho : c ≠ bracket.opening) (hc : c ≠ bracket.closing) :
    brackets bracket offset depth first (c :: rest)
      = brackets bracket (offset + 1) depth first rest := by
  cases depth <;> rw [brackets, if_neg ho, if_neg hc]

/-- **The counter follows the stack**: what has been reported so far and what is still to be
reported is all that the matching of the whole text says. -/
theorem map_strays_append_brackets (base : Nat) (bracket : Bracket) (rest : Text)
    {s : Bracket.Trace} {first : Nat} (hfirst : ∀ i ∈ s.stack.getLast?, first = base + i) :
    s.strays.map (strayReport base bracket) ++
        brackets bracket (base + s.count) s.stack.length first rest
      = (rest.foldl (Bracket.Trace.read bracket) s).strays.map (strayReport base bracket) ++
        ((rest.foldl (Bracket.Trace.read bracket) s).stack.getLast?.map
          (openReport base bracket)).toList := by
  induction rest generalizing s first with
  | nil =>
    rw [List.foldl_nil, brackets]
    cases hlast : s.stack.getLast? with
    | none => simp [List.getLast?_eq_none_iff.1 hlast]
    | some i =>
      have hne : s.stack ≠ [] := fun hnil ↦ by simp [hnil] at hlast
      rw [if_pos (List.length_pos_iff.2 hne), hfirst i hlast]
      rfl
  | cons c rest ih =>
    rw [List.foldl_cons]
    obtain ⟨rfl, hr⟩ | ⟨i, below, rfl, hs, hr⟩ | ⟨rfl, hs, hr⟩ | ⟨ho, hc, hr⟩ :=
      s.read_cases bracket c
    · rw [hr, ← ih, brackets_opening]
      · rfl
      · -- the depth leaves zero where the bottom of the stack is put
        intro i hi
        cases hs : s.stack with
        | nil =>
          rw [hs] at hi
          simpa using hi
        | cons j below =>
          rw [hs, List.getLast?_cons_cons] at hi
          rw [List.length_cons, if_neg (Nat.succ_ne_zero _)]
          exact hfirst i (by rw [hs]; exact hi)
    · rw [hr, ← ih, hs, List.length_cons, brackets, if_neg bracket.closing_ne_opening, if_pos rfl]
      · rfl
      · intro k hk
        cases below with
        | nil => cases hk
        | cons j below => exact hfirst k (by rw [hs, List.getLast?_cons_cons]; exact hk)
    · rw [hr, ← ih, hs, List.length_nil, brackets, if_neg bracket.closing_ne_opening, if_pos rfl,
        List.map_append, List.append_assoc]
      · rfl
      · intro i hi
        cases hi
    · rw [hr, ← ih, brackets_other _ _ _ _ ho hc]
      · rfl
      · exact hfirst

theorem brackets_eq_bracketReport (base : Nat) (content : Text) (bracket : Bracket) :
    brackets bracket base 0 base content
      = bracketReport base content bracket (bracket.matching content) := by
  have hstart : bracket.Reads [] .start := Bracket.reads_start
  have hreads := hstart.append content
  have hall := @map_strays_append_brackets base bracket content .start base nofun
  rw [hreads.strays_eq, ← List.head?_reverse, hreads.stack_eq] at hall
  exact hall

theorem check_eq_report {b : Block} (h : b.kind ≠ .comment) : check b = report b := by
  rw [check, if_neg h, report, funext (quotes_eq_quoteReport b.contentOffset b.content)]
  simp only [brackets_eq_bracketReport]

theorem pairing_eq_flatMap_report (blocks : List Block) :
    pairing blocks = (blocks.filter (·.kind ≠ .comment)).flatMap report := by
  induction blocks with
  | nil => rfl
  | cons b blocks ih =>
    rw [pairing, List.flatMap_cons, ← pairing, ih]
    by_cases hkind : b.kind = .comment
    · rw [check, if_pos hkind, List.filter_cons_of_neg (by simpa using hkind), List.nil_append]
    · rw [check_eq_report hkind, List.filter_cons_of_pos (by simpa using hkind),
        List.flatMap_cons]

theorem check_eq_nil_iff (b : Block) : check b = [] ↔ b.kind ≠ .comment →
    (∀ quote : Quote, b.content.count quote.char % 2 = 0) ∧
      ∀ bracket : Bracket, bracket.Balanced b.content := by
  have hquote : ∀ quote : Quote, quotes b.contentOffset b.content quote = [] ↔
      b.content.count quote.char % 2 = 0 := by
    intro quote
    rw [quotes]
    split
    · next hodd => exact iff_of_false (List.cons_ne_nil _ _) (by omega)
    · next heven => exact iff_of_true rfl (by omega)
  rw [check]
  split
  · next hkind => simp [hkind]
  · next hkind =>
    have hquotes : ∀ quote, quote ∈ Quote.all := by intro quote; cases quote <;> decide
    have hbrackets : ∀ bracket, bracket ∈ Bracket.all := by intro bracket; cases bracket <;> decide
    simp only [List.append_eq_nil_iff, List.flatMap_eq_nil_iff, hquote, brackets_eq_nil_iff,
      ← Bracket.balanced_iff, hquotes, hbrackets, hkind, ne_eq, not_false_eq_true, true_imp_iff]

/-- **Quotes and brackets**, in every list of blocks.  Nothing is reported exactly when in every
expression and statement the quotes of each kind are even in number and the brackets of each kind
are balanced.  Otherwise each of these blocks is reported on in turn: a kind of quote at its last
place, if their number is odd; and a kind of bracket, once every closing one is matched with the
nearest opening one before it that is not, at all closing brackets that are not matched and then at
the first opening one that is not. -/
theorem pairing_matching (blocks : List Block) :
    (pairing blocks = [] ↔ ∀ b ∈ blocks, b.kind ≠ .comment →
      (∀ quote : Quote, b.content.count quote.char % 2 = 0) ∧
        ∀ bracket : Bracket, bracket.Balanced b.content) ∧
    pairing blocks = (blocks.filter (·.kind ≠ .comment)).flatMap report ∧
    ∀ (bracket : Bracket) (content : Text), bracket.Nearest content (bracket.matching content) := by
  refine ⟨?_, pairing_eq_flatMap_report blocks, fun bracket content ↦ ?_⟩
  · simp only [pairing, List.flatMap_eq_nil_iff, check_eq_nil_iff]
  · have hstart : bracket.Reads [] .start := Bracket.reads_start
    exact (hstart.append content).nearest

end Pairing

end TemplateAssist
