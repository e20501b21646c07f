import Mathlib.Data.List.Nodup
import TemplateAssist.Proofs.Lint.TagGrammar

/-!
# Tags and end tags, matched

Reading the blocks of a document with a stack of open bodies matches some of the blocks that open
a body with later ones that close one.  This file makes the matching explicit, by the places of
the blocks in the list, and says what the findings about tags are in terms of it.

* `matching` is the list of matched places.  `Nested` has its laws: the tags agree, no pair
  crosses another, and all that is opened inside of a pair is closed inside of it.
* `report` has what is reported for one block, given the matching, and `Reads.check_eq_reports`
  says that nothing else is: the reports come in the order of the document, and the bodies that
  stay open follow.
* `check_eraseIdx` says what leaving out an end tag does that closes nothing.

The laws are an invariant of reading one block after the other (`Reads`); `Trace.read_cases` says
once what reading a block can do.
-/

set_option autoImplicit false

namespace TemplateAssist
namespace TagBalance

/-! ## Reading with places -/

/-- What reading some blocks has led to. -/
structure Trace where
  /-- How many blocks have been read. -/
  count : Nat
  /-- The open bodies, innermost first, with the places of the blocks that open them. -/
  stack : List (Nat × Pending)
  /-- The places of the blocks that open and close the same body, so far. -/
  pairs : List (Nat × Nat)

namespace Trace

/-- A block that neither opens nor closes a body has been read. -/
def skip (s : Trace) : Trace := ⟨s.count + 1, s.stack, s.pairs⟩

/-- One more block has been read. -/
def read (settings : Settings) (s : Trace) (b : Block) : Trace :=
  match b.event settings with
  | .opens tag => ⟨s.count + 1, (s.count, ⟨tag, b.span⟩) :: s.stack, s.pairs⟩
  | .closes tag =>
    match s.stack with
    | [] => s.skip
    | (i, top) :: below =>
      if top.tag = tag then ⟨s.count + 1, below, s.pairs ++ [(i, s.count)]⟩ else s.skip
  | _ => s.skip

/-- Before the first block. -/
def start : Trace := ⟨0, [], []⟩

/-- The open bodies, without places. -/
def bodies (s : Trace) : List Pending := s.stack.map (·.2)

/-- What reading a block can do: a body is opened, the innermost body is closed, or nothing
happens. -/
theorem read_cases (settings : Settings) (s : Trace) (b : Block) :
    (∃ tag, b.event settings = .opens tag ∧
      s.read settings b = ⟨s.count + 1, (s.count, ⟨tag, b.span⟩) :: s.stack, s.pairs⟩) ∨
    (∃ i top below, s.stack = (i, top) :: below ∧ b.event settings = .closes top.tag ∧
      s.read settings b = ⟨s.count + 1, below, s.pairs ++ [(i, s.count)]⟩) ∨
    ((∀ tag, b.event settings ≠ .opens tag) ∧
      (∀ tag, b.event settings = .closes tag → s.bodies.head?.map (·.tag) ≠ some tag) ∧
      s.read settings b = s.skip) := by
  cases he : b.event settings with
  | opens tag => exact .inl ⟨tag, rfl, by simp only [read, he]⟩
  | invalid => exact .inr (.inr ⟨nofun, nofun, by simp only [read, he]⟩)
  | neutral => exact .inr (.inr ⟨nofun, nofun, by simp only [read, he]⟩)
  | closes tag =>
    cases hs : s.stack with
    | nil =>
      refine .inr (.inr ⟨nofun, fun tag' _ ↦ ?_, by simp only [read, he, hs]⟩)
      simp [bodies, hs]
    | cons entry below =>
      obtain ⟨i, top⟩ := entry
      by_cases ht : top.tag = tag
      · exact .inr (.inl ⟨i, top, below, rfl, by rw [ht], by simp only [read, he, hs, if_pos ht]⟩)
      · refine .inr (.inr ⟨nofun, fun tag' htag ↦ ?_, by simp only [read, he, hs, if_neg ht]⟩)
        cases htag
        simpa [bodies, hs] using ht

/-- What reading an end tag can do. -/
theorem read_closes {settings : Settings} {b : Block} {tag : Tag} (s : Trace)
    (hb : b.event settings = .closes tag) :
    (∃ i top below, s.stack = (i, top) :: below ∧ top.tag = tag ∧
      s.read settings b = ⟨s.count + 1, below, s.pairs ++ [(i, s.count)]⟩) ∨
    (s.bodies.head?.map (·.tag) ≠ some tag ∧ s.read settings b = s.skip) := by
  obtain ⟨_, he, -⟩ | ⟨i, top, below, hs, he, hr⟩ | ⟨-, hnone, hr⟩ := read_cases settings s b
  · rw [hb] at he
    cases he
  · rw [hb] at he
    exact .inl ⟨i, top, below, hs, (Event.closes.inj he).symm, hr⟩
  · exact .inr ⟨hnone tag hb, hr⟩

end Trace

/-- The places of the blocks that open and close the same body. -/
def matching (settings : Settings) (blocks : List Block) : List (Nat × Nat) :=
  (blocks.foldl (Trace.read settings) .start).pairs

/-! ## The laws of a matching -/

/-- The body that the block at place `i` opens, if it is not matched. -/
def unmatchedOpening? (settings : Settings) (pairs : List (Nat × Nat)) (b : Block) (i : Nat) :
    Option (Nat × Pending) :=
  match b.event settings with
  | .opens tag => if i ∈ pairs.map Prod.fst then none else some (i, ⟨tag, b.span⟩)
  | _ => none

/-- The bodies that are opened and not matched, in the order of the document. -/
def unmatchedOpenings (settings : Settings) (blocks : List Block) (pairs : List (Nat × Nat)) :
    List (Nat × Pending) :=
  blocks.zipIdx.filterMap fun (b, i) ↦ unmatchedOpening? settings pairs b i

/-- The laws of a matching of blocks that open bodies with blocks that close them. -/
structure Nested (settings : Settings) (blocks : List Block) (pairs : List (Nat × Nat)) :
    Prop where
  /-- A body is closed by a later block, with its own end tag. -/
  tags : ∀ p ∈ pairs, p.1 < p.2 ∧ ∃ b e tag, blocks[p.1]? = some b ∧ blocks[p.2]? = some e ∧
    b.event settings = .opens tag ∧ e.event settings = .closes tag
  openings_nodup : (pairs.map Prod.fst).Nodup
  closings_nodup : (pairs.map Prod.snd).Nodup
  /-- Pairs do not cross. -/
  nested : ∀ p ∈ pairs, ∀ q ∈ pairs, p.1 < q.1 → q.1 < p.2 → q.2 < p.2
  /-- What is opened inside of a pair is matched. -/
  filled : ∀ p ∈ pairs, ∀ k b tag, p.1 < k → k < p.2 → blocks[k]? = some b →
    b.event settings = .opens tag → k ∈ pairs.map Prod.fst

/-- What is known after reading the blocks `read`. -/
structure Reads (settings : Settings) (read : List Block) (s : Trace) : Prop where
  count_eq : s.count = read.length
  nested : Nested settings read s.pairs
  stack_eq : s.stack.reverse = unmatchedOpenings settings read s.pairs
  /-- No body that is still open was opened inside of a pair. -/
  apart : ∀ p ∈ s.pairs, ∀ q ∈ s.stack, p.1 < q.1 → p.2 ≤ q.1

theorem unmatchedOpening?_eq_some_iff {settings : Settings} {pairs : List (Nat × Nat)} {b : Block}
    {i : Nat} {p : Nat × Pending} : unmatchedOpening? settings pairs b i = some p ↔
      ∃ tag, b.event settings = .opens tag ∧ i ∉ pairs.map Prod.fst ∧ p = (i, ⟨tag, b.span⟩) := by
  rw [unmatchedOpening?]
  cases b.event settings with
  | opens tag =>
    by_cases hi : i ∈ pairs.map Prod.fst
    · simp only [if_pos hi]
      exact ⟨nofun, fun ⟨_, _, hn, _⟩ ↦ absurd hi hn⟩
    · simp only [if_neg hi]
      constructor
      · intro h
        exact ⟨tag, rfl, hi, (Option.some.inj h).symm⟩
      · rintro ⟨tag', ht, -, rfl⟩
        cases ht
        rfl
  | closes _ => exact ⟨nofun, nofun⟩
  | invalid => exact ⟨nofun, nofun⟩
  | neutral => exact ⟨nofun, nofun⟩

theorem mem_unmatchedOpenings {settings : Settings} {blocks : List Block}
    {pairs : List (Nat × Nat)} {i : Nat} {p : Pending} :
    (i, p) ∈ unmatchedOpenings settings blocks pairs ↔ ∃ b tag, blocks[i]? = some b ∧
      b.event settings = .opens tag ∧ i ∉ pairs.map Prod.fst ∧ p = ⟨tag, b.span⟩ := by
  rw [unmatchedOpenings, List.mem_filterMap]
  constructor
  · rintro ⟨⟨b, j⟩, hmem, h⟩
    obtain ⟨tag, he, hj, heq⟩ := unmatchedOpening?_eq_some_iff.1 h
    cases heq
    exact ⟨b, tag, List.mem_zipIdx_iff_getElem?.1 hmem, he, hj, rfl⟩
  · rintro ⟨b, tag, hb, he, hi, rfl⟩
    exact ⟨(b, i), List.mem_zipIdx_iff_getElem?.2 hb,
      unmatchedOpening?_eq_some_iff.2 ⟨tag, he, hi, rfl⟩⟩

theorem pairwise_unmatchedOpenings (settings : Settings) (blocks : List Block)
    (pairs : List (Nat × Nat)) :
    (unmatchedOpenings settings blocks pairs).Pairwise fun p q ↦ p.1 < q.1 := by
  have hplaces : blocks.zipIdx.Pairwise fun p q ↦ p.2 < q.2 := by
    rw [← List.pairwise_map (f := Prod.snd) (R := (· < ·)), List.zipIdx_map_snd]
    exact List.pairwise_lt_range'
  refine List.Pairwise.filterMap _ ?_ hplaces
  rintro ⟨b, i⟩ ⟨b', i'⟩ hlt p hp q hq
  obtain ⟨_, -, -, rfl⟩ := unmatchedOpening?_eq_some_iff.1 hp
  obtain ⟨_, -, -, rfl⟩ := unmatchedOpening?_eq_some_iff.1 hq
  exact hlt

theorem unmatchedOpenings_concat (settings : Settings) (read : List Block) (b : Block)
    (pairs : List (Nat × Nat)) :
    unmatchedOpenings settings (read ++ [b]) pairs = unmatchedOpenings settings read pairs ++
      (unmatchedOpening? settings pairs b read.length).toList := by
  rw [unmatchedOpenings, List.zipIdx_append, List.filterMap_append, Nat.zero_add,
    List.zipIdx_singleton, ← unmatchedOpenings]
  cases h : unmatchedOpening? settings pairs b read.length <;> simp [h]

/-- One more pair takes away the body that it closes. -/
theorem unmatchedOpenings_pair (settings : Settings) (blocks : List Block)
    (pairs : List (Nat × Nat)) (i j : Nat) :
    unmatchedOpenings settings blocks (pairs ++ [(i, j)])
      = (unmatchedOpenings settings blocks pairs).filter (·.1 ≠ i) := by
  rw [unmatchedOpenings, unmatchedOpenings, List.filter_filterMap]
  congr 1
  funext ⟨b, k⟩
  refine Option.ext fun p ↦ ?_
  rw [unmatchedOpening?_eq_some_iff, Option.filter_eq_some_iff, unmatchedOpening?_eq_some_iff]
  simp only [List.map_append, List.mem_append, List.map_cons, List.map_nil, List.mem_singleton,
    not_or, decide_eq_true_eq]
  constructor
  · rintro ⟨tag, he, ⟨hk, hi⟩, rfl⟩
    exact ⟨⟨tag, he, hk, rfl⟩, hi⟩
  · rintro ⟨⟨tag, he, hk, rfl⟩, hi⟩
    exact ⟨tag, he, ⟨hk, hi⟩, rfl⟩

/-! ## The laws hold -/

section

variable {settings : Settings} {read : List Block} {s : Trace} {b : Block}

theorem Nested.lt_length {pairs : List (Nat × Nat)} (h : Nested settings read pairs)
    {p : Nat × Nat} (hp : p ∈ pairs) : p.1 < read.length ∧ p.2 < read.length := by
  obtain ⟨hlt, _, _, _, -, he, -, -⟩ := h.tags p hp
  obtain ⟨hlength, -⟩ := List.getElem?_eq_some_iff.1 he
  exact ⟨hlt.trans hlength, hlength⟩

theorem Nested.concat {pairs : List (Nat × Nat)} (h : Nested settings read pairs) (b : Block) :
    Nested settings (read ++ [b]) pairs where
  tags p hp := by
    obtain ⟨hlt, o, e, tag, ho, he, hopens, hcloses⟩ := h.tags p hp
    obtain ⟨h₁, h₂⟩ := h.lt_length hp
    refine ⟨hlt, o, e, tag, ?_, ?_, hopens, hcloses⟩
    · rwa [List.getElem?_append_left h₁]
    · rwa [List.getElem?_append_left h₂]
  openings_nodup := h.openings_nodup
  closings_nodup := h.closings_nodup
  nested := h.nested
  filled p hp k b' tag hpk hkp hb' := by
    rw [List.getElem?_append_left (hkp.trans (h.lt_length hp).2)] at hb'
    exact h.filled p hp k b' tag hpk hkp hb'

theorem reads_start : Reads settings [] .start where
  count_eq := rfl
  nested := ⟨nofun, List.nodup_nil, List.nodup_nil, nofun, nofun⟩
  stack_eq := rfl
  apart := nofun

theorem Reads.mem_stack (h : Reads settings read s) {i : Nat} {p : Pending} :
    (i, p) ∈ s.stack ↔ ∃ b tag, read[i]? = some b ∧ b.event settings = .opens tag ∧
      i ∉ s.pairs.map Prod.fst ∧ p = ⟨tag, b.span⟩ := by
  rw [← mem_unmatchedOpenings, ← h.stack_eq, List.mem_reverse]

/-- The innermost open body was opened last. -/
theorem Reads.lt_of_mem_below (h : Reads settings read s) {i : Nat} {top : Pending}
    {below : List (Nat × Pending)} (hs : s.stack = (i, top) :: below) {q : Nat × Pending}
    (hq : q ∈ below) : q.1 < i := by
  have hsorted := pairwise_unmatchedOpenings settings read s.pairs
  rw [← h.stack_eq, hs, List.reverse_cons, List.pairwise_append] at hsorted
  exact hsorted.2.2 q (List.mem_reverse.2 hq) (i, top) (List.mem_singleton.2 rfl)

/-- What was opened after the innermost open body is matched, or it would be open inside of it. -/
theorem Reads.matched_of_innermost_lt (h : Reads settings read s) {i k : Nat} {top : Pending}
    {below : List (Nat × Pending)} (hs : s.stack = (i, top) :: below) (hik : i < k) {tag : Tag}
    (hk : read[k]? = some b) (hb : b.event settings = .opens tag) : k ∈ s.pairs.map Prod.fst := by
  by_contra hfresh
  have hmem : (k, (⟨tag, b.span⟩ : Pending)) ∈ s.stack :=
    h.mem_stack.2 ⟨b, tag, hk, hb, hfresh, rfl⟩
  rw [hs] at hmem
  rcases List.mem_cons.1 hmem with heq | hbelow
  · have hki : k = i := congrArg Prod.fst heq
    omega
  · have hki : k < i := h.lt_of_mem_below hs hbelow
    omega

theorem Reads.opens (h : Reads settings read s) {tag : Tag} (hb : b.event settings = .opens tag) :
    Reads settings (read ++ [b]) ⟨s.count + 1, (s.count, ⟨tag, b.span⟩) :: s.stack, s.pairs⟩ where
  count_eq := by rw [List.length_append, h.count_eq, List.length_singleton]
  nested := h.nested.concat b
  stack_eq := by
    have hnew : unmatchedOpening? settings s.pairs b read.length
        = some (read.length, ⟨tag, b.span⟩) := by
      refine unmatchedOpening?_eq_some_iff.2 ⟨tag, hb, fun hmem ↦ ?_, rfl⟩
      obtain ⟨p, hp, hfst⟩ := List.mem_map.1 hmem
      exact absurd (h.nested.lt_length hp).1 (by omega)
    rw [unmatchedOpenings_concat, hnew, List.reverse_cons, h.stack_eq, h.count_eq]
    rfl
  apart p hp q hq hlt := by
    rcases List.mem_cons.1 hq with rfl | hq
    · rw [h.count_eq]
      exact (h.nested.lt_length hp).2.le
    · exact h.apart p hp q hq hlt

theorem unmatchedOpening?_eq_none {pairs : List (Nat × Nat)}
    (hb : ∀ tag, b.event settings ≠ .opens tag) (i : Nat) :
    unmatchedOpening? settings pairs b i = none := by
  rw [Option.eq_none_iff_forall_ne_some]
  intro p hp
  obtain ⟨tag, he, -⟩ := unmatchedOpening?_eq_some_iff.1 hp
  exact hb tag he

theorem Reads.skip (h : Reads settings read s) (hb : ∀ tag, b.event settings ≠ .opens tag) :
    Reads settings (read ++ [b]) s.skip where
  count_eq := by rw [List.length_append, Trace.skip, h.count_eq, List.length_singleton]
  nested := h.nested.concat b
  stack_eq := by
    rw [unmatchedOpenings_concat, unmatchedOpening?_eq_none hb, Option.toList_none, List.append_nil]
    exact h.stack_eq
  apart := h.apart

theorem Reads.nested_closes (h : Reads settings read s) {i : Nat} {top : Pending}
    {below : List (Nat × Pending)} (hs : s.stack = (i, top) :: below)
    (hb : b.event settings = .closes top.tag) :
    Nested settings (read ++ [b]) (s.pairs ++ [(i, s.count)]) := by
  have htop : (i, top) ∈ s.stack := by rw [hs]; exact List.mem_cons_self
  obtain ⟨o, tag, ho, hopens, hfresh, rfl⟩ := h.mem_stack.1 htop
  obtain ⟨hi, -⟩ := List.getElem?_eq_some_iff.1 ho
  have hold := h.nested.concat b
  have hcount := h.count_eq
  refine ⟨fun p hp ↦ ?_, ?_, ?_, fun p hp q hq hpq hqp ↦ ?_,
    fun p hp k b' tag' hpk hkp hb' hopens' ↦ ?_⟩
  · rcases List.mem_append.1 hp with hp | hp
    · exact hold.tags p hp
    · obtain rfl := List.mem_singleton.1 hp
      refine ⟨by dsimp only; omega, o, b, tag, ?_, ?_, hopens, hb⟩
      · rwa [List.getElem?_append_left hi]
      · rw [hcount]
        exact List.getElem?_concat_length
  · rw [List.map_append, List.nodup_append]
    refine ⟨h.nested.openings_nodup, List.nodup_singleton _, fun j hj k hk ↦ ?_⟩
    rintro rfl
    rw [List.mem_singleton.1 hk] at hj
    exact hfresh hj
  · rw [List.map_append, List.nodup_append]
    refine ⟨h.nested.closings_nodup, List.nodup_singleton _, fun j hj k hk ↦ ?_⟩
    rintro rfl
    obtain ⟨p, hp, hsnd⟩ := List.mem_map.1 hj
    have := (h.nested.lt_length hp).2
    rw [hsnd, List.mem_singleton.1 hk] at this
    exact absurd this (by dsimp only; omega)
  · rcases List.mem_append.1 hp with hp | hp <;> rcases List.mem_append.1 hq with hq | hq
    · exact h.nested.nested p hp q hq hpq hqp
    · -- the new pair would have been opened inside of an old one
      obtain rfl := List.mem_singleton.1 hq
      exact absurd (h.apart p hp _ htop hpq) (by dsimp only at hqp ⊢; omega)
    · obtain rfl := List.mem_singleton.1 hp
      have := (h.nested.lt_length hq).2
      dsimp only
      omega
    · obtain rfl := List.mem_singleton.1 hp
      obtain rfl := List.mem_singleton.1 hq
      exact absurd hpq (lt_irrefl _)
  · rw [List.map_append, List.mem_append]
    refine .inl ?_
    rcases List.mem_append.1 hp with hp | hp
    · exact hold.filled p hp k b' tag' hpk hkp hb' hopens'
    · obtain rfl := List.mem_singleton.1 hp
      rw [List.getElem?_append_left (by rw [← hcount]; exact hkp)] at hb'
      exact h.matched_of_innermost_lt hs hpk hb' hopens'

theorem Reads.closes (h : Reads settings read s) {i : Nat} {top : Pending}
    {below : List (Nat × Pending)} (hs : s.stack = (i, top) :: below)
    (hb : b.event settings = .closes top.tag) :
    Reads settings (read ++ [b]) ⟨s.count + 1, below, s.pairs ++ [(i, s.count)]⟩ where
  count_eq := by rw [List.length_append, h.count_eq, List.length_singleton]
  nested := h.nested_closes hs hb
  stack_eq := by
    have hnone : unmatchedOpening? settings s.pairs b read.length = none :=
      unmatchedOpening?_eq_none (by rw [hb]; exact nofun) _
    have hbelow : below.reverse.filter (·.1 ≠ i) = below.reverse :=
      List.filter_eq_self.2 fun q hq ↦
        decide_eq_true (h.lt_of_mem_below hs (List.mem_reverse.1 hq)).ne
    rw [unmatchedOpenings_pair, unmatchedOpenings_concat, hnone, Option.toList_none,
      List.append_nil, ← h.stack_eq, hs, List.reverse_cons, List.filter_append, hbelow]
    simp
  apart p hp q hq hlt := by
    rcases List.mem_append.1 hp with hp | hp
    · exact h.apart p hp q (by rw [hs]; exact List.mem_cons_of_mem _ hq) hlt
    · obtain rfl := List.mem_singleton.1 hp
      exact absurd (h.lt_of_mem_below hs hq) (by dsimp only at hlt ⊢; omega)

/-- Reading one more block keeps the laws. -/
theorem Reads.concat (h : Reads settings read s) (b : Block) :
    Reads settings (read ++ [b]) (s.read settings b) := by
  obtain ⟨tag, hb, heq⟩ | ⟨i, top, below, hs, hb, heq⟩ | ⟨hb, -, heq⟩ :=
    Trace.read_cases settings s b
  · rw [heq]
    exact h.opens hb
  · rw [heq]
    exact h.closes hs hb
  · rw [heq]
    exact h.skip hb

/-- So does reading any number of blocks. -/
theorem Reads.append (h : Reads settings read s) (rest : List Block) :
    Reads settings (read ++ rest) (rest.foldl (Trace.read settings) s) := by
  induction rest generalizing read s with
  | nil => rwa [List.append_nil]
  | cons b rest ih =>
    rw [List.append_cons, List.foldl_cons]
    exact ih (h.concat b)

end

/-! ## What is reported -/

/-- The bodies that are open before the block at place `j`, outermost first. -/
def pendingAt (settings : Settings) (blocks : List Block) (pairs : List (Nat × Nat)) (j : Nat) :
    List (Nat × Pending) :=
  unmatchedOpenings settings (blocks.take j) (pairs.filter (·.2 < j))

/-- What is reported of the block `b` at place `j`.  An end tag that is not matched is reported by
the innermost body that is open there. -/
def report (settings : Settings) (blocks : List Block) (pairs : List (Nat × Nat)) (b : Block)
    (j : Nat) : List Finding :=
  match b.event settings with
  | .closes tag =>
    if j ∈ pairs.map Prod.snd then []
    else [unmatchedEnd b tag ((pendingAt settings blocks pairs j).getLast?.map (·.2))]
  | _ => b.remarks settings

section

variable {settings : Settings} {read : List Block} {s : Trace} {b : Block}

theorem report_of_not_closes {blocks : List Block} {pairs : List (Nat × Nat)} {j : Nat}
    (h : ∀ tag, b.event settings ≠ .closes tag) :
    report settings blocks pairs b j = b.remarks settings := by
  unfold report
  split
  · next tag he => exact absurd he (h tag)
  · rfl

theorem report_of_closes {blocks : List Block} {pairs : List (Nat × Nat)} {j : Nat} {tag : Tag}
    (h : b.event settings = .closes tag) :
    report settings blocks pairs b j = if j ∈ pairs.map Prod.snd then []
      else [unmatchedEnd b tag ((pendingAt settings blocks pairs j).getLast?.map (·.2))] := by
  simp only [report, h]

/-- The pairs that reading more blocks adds are closed by these blocks. -/
theorem Trace.exists_later_pairs (settings : Settings) (s : Trace) (rest : List Block) :
    ∃ later, (rest.foldl (Trace.read settings) s).pairs = s.pairs ++ later ∧
      ∀ p ∈ later, s.count ≤ p.2 := by
  induction rest generalizing s with
  | nil => exact ⟨[], (List.append_nil _).symm, nofun⟩
  | cons b rest ih =>
    obtain ⟨later, heq, hlater⟩ := ih (s.read settings b)
    rw [List.foldl_cons, heq]
    obtain ⟨tag, -, hr⟩ | ⟨i, top, below, -, -, hr⟩ | ⟨-, -, hr⟩ := read_cases settings s b
    · rw [hr] at hlater ⊢
      exact ⟨later, rfl, fun p hp ↦ (Nat.le_succ _).trans (hlater p hp)⟩
    · rw [hr] at hlater ⊢
      refine ⟨(i, s.count) :: later, List.append_cons _ _ _ ▸ rfl, fun p hp ↦ ?_⟩
      rcases List.mem_cons.1 hp with rfl | hp
      · exact le_rfl
      · exact (Nat.le_succ _).trans (hlater p hp)
    · rw [hr] at hlater ⊢
      exact ⟨later, rfl, fun p hp ↦ (Nat.le_succ _).trans (hlater p hp)⟩

/-- The bodies open before a block do not depend on what is read from there on. -/
theorem Reads.pendingAt_eq (h : Reads settings read s) (rest : List Block) :
    pendingAt settings (read ++ rest) (rest.foldl (Trace.read settings) s).pairs read.length
      = s.stack.reverse := by
  obtain ⟨later, heq, hlater⟩ := Trace.exists_later_pairs settings s rest
  have hold : s.pairs.filter (·.2 < read.length) = s.pairs :=
    List.filter_eq_self.2 fun p hp ↦ decide_eq_true (h.nested.lt_length hp).2
  have hnew : later.filter (·.2 < read.length) = [] := by
    rw [List.filter_eq_nil_iff]
    intro p hp
    have := hlater p hp
    rw [h.count_eq] at this
    simpa using this
  rw [pendingAt, List.take_left, heq, List.filter_append, hold, hnew, List.append_nil, h.stack_eq]

/-- A block is matched as an end tag exactly when reading it closes a body. -/
theorem Reads.mem_closings_iff (h : Reads settings read s) (rest : List Block) {tag : Tag}
    (hb : b.event settings = .closes tag) :
    read.length ∈ ((b :: rest).foldl (Trace.read settings) s).pairs.map Prod.snd ↔
      s.bodies.head?.map (·.tag) = some tag := by
  obtain ⟨later, heq, hlater⟩ := Trace.exists_later_pairs settings (s.read settings b) rest
  rw [List.foldl_cons, heq, List.map_append, List.mem_append]
  obtain ⟨i, top, below, hs, ht, hr⟩ | ⟨hnone, hr⟩ := s.read_closes hb
  · refine iff_of_true (.inl ?_) (by rw [Trace.bodies, hs, ← ht]; rfl)
    rw [hr, List.map_append, List.mem_append, h.count_eq]
    exact .inr (List.mem_singleton.2 rfl)
  · refine iff_of_false ?_ hnone
    rw [hr] at hlater ⊢
    rintro (hmem | hmem)
    · obtain ⟨p, hp, hsnd⟩ := List.mem_map.1 hmem
      exact absurd (h.nested.lt_length hp).2 (by omega)
    · obtain ⟨p, hp, hsnd⟩ := List.mem_map.1 hmem
      have hle : s.count + 1 ≤ p.2 := hlater p hp
      exact absurd h.count_eq (by omega)

/-- One visit, by the matching of the whole document. -/
theorem Reads.visit_eq_report (h : Reads settings read s) (b : Block) (rest : List Block) :
    visit settings b s.bodies = ((s.read settings b).bodies,
      report settings (read ++ b :: rest) ((b :: rest).foldl (Trace.read settings) s).pairs b
        read.length) := by
  have hhead : (s.stack.reverse.getLast?.map (·.2)) = s.bodies.head? := by
    rw [List.getLast?_reverse, Trace.bodies, List.head?_map]
  cases he : b.event settings with
  | opens tag =>
    rw [visit_opens _ he, report_of_not_closes (by rw [he]; exact nofun), remarks_of_opens he]
    simp only [Trace.read, he, Trace.bodies, List.map_cons]
  | closes tag =>
    rw [visit_closes _ he, report_of_closes he, h.pendingAt_eq, hhead]
    simp only [h.mem_closings_iff rest he]
    obtain ⟨i, top, below, hs, ht, hr⟩ | ⟨hnone, hr⟩ := s.read_closes he
    · have htop : s.bodies.head?.map (·.tag) = some tag := by rw [Trace.bodies, hs, ← ht]; rfl
      rw [if_pos htop, if_pos htop, hr, Trace.bodies, hs]
      rfl
    · rw [if_neg hnone, if_neg hnone, hr]
      rfl
  | invalid =>
    rw [visit_other _ (by rw [he]; exact nofun) (by rw [he]; exact nofun),
      report_of_not_closes (by rw [he]; exact nofun)]
    simp only [Trace.read, he, Trace.skip, Trace.bodies]
  | neutral =>
    rw [visit_other _ (by rw [he]; exact nofun) (by rw [he]; exact nofun),
      report_of_not_closes (by rw [he]; exact nofun)]
    simp only [Trace.read, he, Trace.skip, Trace.bodies]

/-- **All that is reported**: of each block what `report` says, in the order of the document, and
then the bodies that are not matched. -/
theorem Reads.check_eq_reports (h : Reads settings read s) (rest : List Block) :
    check settings s.bodies rest =
      ((rest.zipIdx read.length).flatMap fun (b, j) ↦
        report settings (read ++ rest) (rest.foldl (Trace.read settings) s).pairs b j) ++
      (unmatchedOpenings settings (read ++ rest) (rest.foldl (Trace.read settings) s).pairs).map
        (·.2.unclosed) := by
  induction rest generalizing read s with
  | nil =>
    rw [List.append_nil, List.zipIdx_nil, List.flatMap_nil, List.nil_append, List.foldl_nil,
      ← h.stack_eq, check, Trace.bodies, ← List.map_reverse, List.map_map]
    rfl
  | cons b rest ih =>
    have hrest := ih (h.concat b)
    rw [← List.append_cons, List.length_append, List.length_singleton] at hrest
    rw [check_cons, h.visit_eq_report b rest, hrest, List.zipIdx_cons, List.flatMap_cons,
      List.append_assoc, List.foldl_cons]

/-! ## Leaving a block out -/

/-- What is reported of the first blocks does not depend on what follows them. -/
theorem Reads.exists_check_append (h : Reads settings read s) (first : List Block) :
    ∃ before, ∀ rest, check settings s.bodies (first ++ rest)
      = before ++ check settings (first.foldl (Trace.read settings) s).bodies rest := by
  induction first generalizing read s with
  | nil => exact ⟨[], fun _ ↦ rfl⟩
  | cons b first ih =>
    obtain ⟨before, hbefore⟩ := ih (h.concat b)
    refine ⟨(visit settings b s.bodies).2 ++ before, fun rest ↦ ?_⟩
    have hstack : (visit settings b s.bodies).1 = (s.read settings b).bodies := by
      rw [h.visit_eq_report b []]
    rw [List.cons_append, check_cons, hstack, hbefore, List.append_assoc, List.foldl_cons]

/-- Reading an end tag that is not matched leaves the open bodies as they are. -/
theorem Reads.visit_unmatched (h : Reads settings read s) {tag : Tag}
    (hb : b.event settings = .closes tag) {rest : List Block}
    (hm : read.length ∉ ((b :: rest).foldl (Trace.read settings) s).pairs.map Prod.snd) :
    visit settings b s.bodies = (s.bodies, report settings (read ++ b :: rest)
      ((b :: rest).foldl (Trace.read settings) s).pairs b read.length) := by
  rw [h.mem_closings_iff rest hb] at hm
  rw [h.visit_eq_report b rest]
  obtain ⟨i, top, below, hs, ht, -⟩ | ⟨-, hr⟩ := s.read_closes hb
  · exact absurd (by rw [Trace.bodies, hs, ← ht]; rfl) hm
  · rw [hr]
    rfl

end

/-- **Deletion**: without an end tag that is not matched, what is reported is the same but for the
finding of this end tag. -/
theorem check_eraseIdx {settings : Settings} {blocks : List Block} {j : Nat} {b : Block} {tag : Tag}
    (hj : blocks[j]? = some b) (hb : b.event settings = .closes tag)
    (hm : j ∉ (matching settings blocks).map Prod.snd) :
    ∃ before after, check settings [] blocks
        = before ++ report settings blocks (matching settings blocks) b j ++ after ∧
      check settings [] (blocks.eraseIdx j) = before ++ after := by
  obtain ⟨hlt, hget⟩ := List.getElem?_eq_some_iff.1 hj
  obtain ⟨first, rest, rfl, rfl⟩ :
      ∃ first rest, blocks = first ++ b :: rest ∧ first.length = j := by
    refine ⟨blocks.take j, blocks.drop (j + 1), ?_, List.length_take_of_le hlt.le⟩
    rw [← hget, ← List.drop_eq_getElem_cons hlt, List.take_append_drop]
  have hstart : Reads settings [] .start := reads_start
  have hreads := hstart.append first
  obtain ⟨before, hbefore⟩ := hstart.exists_check_append first
  rw [matching, List.foldl_append] at hm ⊢
  have hvisit := hreads.visit_unmatched hb hm
  refine ⟨before, check settings (first.foldl (Trace.read settings) .start).bodies rest, ?_, ?_⟩
  · rw [List.append_assoc]
    refine (hbefore (b :: rest)).trans ?_
    rw [check_cons, hvisit]
    rfl
  · rw [List.eraseIdx_append_of_length_le le_rfl, Nat.sub_self, List.eraseIdx_cons_zero]
    exact hbefore rest

/-! ## The findings about tags -/

/-- **Tags and end tags**: the matching is nested and agrees in tags; the findings are, for each
block in turn, the remarks on it or the end tag that is not matched, and then the bodies that are
not matched; none is about the nesting exactly when the tags are properly nested; and leaving out
an end tag that is not matched takes away its finding and no other. -/
theorem tagBalance_matching (settings : Settings) (blocks : List Block) :
    Nested settings blocks (matching settings blocks) ∧
    tagBalance settings blocks =
      (blocks.zipIdx.flatMap fun (b, j) ↦ report settings blocks (matching settings blocks) b j) ++
      (unmatchedOpenings settings blocks (matching settings blocks)).map (·.2.unclosed) ∧
    ((∀ d ∈ tagBalance settings blocks, d.problem.isNesting = false) ↔
      Balanced (bodyEvents settings blocks)) ∧
    ∀ j b tag, blocks[j]? = some b → b.event settings = .closes tag →
      j ∉ (matching settings blocks).map Prod.snd →
      ∃ d before after, report settings blocks (matching settings blocks) b j = [d] ∧
        tagBalance settings blocks = before ++ d :: after ∧
        tagBalance settings (blocks.eraseIdx j) = before ++ after := by
  have hstart : Reads settings [] .start := reads_start
  refine ⟨(hstart.append blocks).nested, hstart.check_eq_reports blocks,
    forall_not_isNesting_iff [] blocks, fun j b tag hj hb hm ↦ ?_⟩
  obtain ⟨before, after, hall, herased⟩ := check_eraseIdx hj hb hm
  obtain ⟨d, hreport⟩ :
      ∃ d, report settings blocks (matching settings blocks) b j = [d] := by
    rw [report_of_closes hb, if_neg hm]
    exact ⟨_, rfl⟩
  refine ⟨d, before, after, hreport, ?_, herased⟩
  rw [tagBalance, hall, hreport, List.append_assoc]
  rfl

/-- In `{% if a %}{% endfor %}{% endif %}` the end tag in the middle is the one that is not
matched. -/
theorem tagBalance_matching_strayEnd :
    let blocks := [Block.ofRaw .statement 0 " if a ".toList,
      Block.ofRaw .statement 10 " endfor ".toList, Block.ofRaw .statement 22 " endif ".toList]
    matching {} blocks = [(0, 2)] ∧ ∃ before after,
      tagBalance {} blocks = before ++ ⟨⟨10, 22⟩, .wrongEnd .ifTag .forTag, .error⟩ :: after ∧
      tagBalance {} (blocks.eraseIdx 1) = before ++ after := by
  intro blocks
  refine ⟨by decide, ?_⟩
  obtain ⟨d, before, after, hreport, hall, herased⟩ :=
    (tagBalance_matching {} blocks).2.2.2 1 _ .forTag rfl (by decide) (by decide)
  obtain rfl : ⟨⟨10, 22⟩, .wrongEnd .ifTag .forTag, .error⟩ = d :=
    List.singleton_inj.1 (Eq.trans (by decide) hreport)
  exact ⟨before, after, hall, herased⟩

end TagBalance
end TemplateAssist
