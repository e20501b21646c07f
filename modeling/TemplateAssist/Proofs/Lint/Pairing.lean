import TemplateAssist.Lint.Pairing
import TemplateAssist.Proofs.Block.Written
import TemplateAssist.Proofs.Text.Trim

/-!
# When quotes and brackets pair

The check follows one kind of bracket with a depth counter.  `Bracket.depth?` is that counter
alone: the depth after a text, or nothing if a closing bracket comes at depth zero.

* `Bracket.Word` is the grammar of balanced words over the two characters of a bracket, and
  `Bracket.Balanced` says that the brackets of one kind in a text make up such a word.
* `brackets_eq_nil_iff` and `depth?_of_balanced` lead from one to the other: nothing is reported
  for a balanced text.
* `check_ofRaw_eq_nil` puts quotes and brackets together for a block as it is written.
-/

set_option autoImplicit false

namespace TemplateAssist
namespace Bracket

/-! ## Balanced words -/

/-- Whether a character is one of the two of the bracket. -/
def has (b : Bracket) (c : Char) : Bool := c == b.opening || c == b.closing

/-- The balanced words over the two characters of a bracket. -/
inductive Word (b : Bracket) : Text → Prop
  | nil : Word b []
  | pair {u v : Text} (hu : Word b u) (hv : Word b v) :
      Word b (b.opening :: (u ++ b.closing :: v))

/-- The brackets of one kind in a text, taken on their own, are balanced. -/
def Balanced (b : Bracket) (t : Text) : Prop := b.Word (t.filter b.has)

theorem closing_ne_opening (b : Bracket) : b.closing ≠ b.opening := by
  cases b <;> decide

theorem has_of_isBlank (b : Bracket) {c : Char} (h : isBlank c = true) : b.has c = false := by
  rw [Bool.eq_false_iff]
  intro hc
  rw [has, Bool.or_eq_true, beq_iff_eq, beq_iff_eq] at hc
  rcases hc with rfl | rfl <;> (revert h; cases b <;> decide)

theorem has_of_isWordChar (b : Bracket) {c : Char} (h : isWordChar c = true) :
    b.has c = false := by
  rw [Bool.eq_false_iff]
  intro hc
  rw [has, Bool.or_eq_true, beq_iff_eq, beq_iff_eq] at hc
  rcases hc with rfl | rfl <;> (revert h; cases b <;> decide)

theorem balanced_trim {b : Bracket} {t : Text} : b.Balanced t.trim ↔ b.Balanced t := by
  rw [Balanced, Balanced, Text.filter_trim t fun c hc ↦ b.has_of_isBlank hc]

/-- Text without brackets of this kind does not matter where it comes first. -/
theorem balanced_append {b : Bracket} {u t : Text} (h : ∀ c ∈ u, b.has c = false) :
    b.Balanced (u ++ t) ↔ b.Balanced t := by
  have hnil : u.filter b.has = [] :=
    List.filter_eq_nil_iff.2 fun c hc ↦ by rw [h c hc]; exact Bool.false_ne_true
  rw [Balanced, Balanced, List.filter_append, hnil, List.nil_append]

theorem balanced_of_forall {b : Bracket} {t : Text} (h : ∀ c ∈ t, b.has c = false) :
    b.Balanced t := by
  have hb := (balanced_append (t := []) h).2 Word.nil
  rwa [List.append_nil] at hb

theorem balanced_spaced {b : Bracket} {t : Text} :
    b.Balanced (' ' :: (t ++ [' '])) ↔ b.Balanced t := by
  have hblank : ∀ c ∈ [' '], isBlank c = true := List.all_eq_true.1 rfl
  have htrim : Text.trim (' ' :: (t ++ [' '])) = t.trim :=
    Text.trim_append_blanks t hblank hblank
  rw [← balanced_trim, htrim, balanced_trim]

/-! ## The depth counter -/

/-- The depth after a text that starts at some depth; `none` if a closing bracket comes at depth
zero. -/
def depth? (b : Bracket) (depth : Nat) : Text → Option Nat
  | [] => some depth
  | c :: rest =>
    if c = b.opening then depth? b (depth + 1) rest
    else if c = b.closing then
      match depth with
      | 0 => none
      | d + 1 => depth? b d rest
    else depth? b depth rest

theorem depth?_opening (b : Bracket) (depth : Nat) (rest : Text) :
    b.depth? depth (b.opening :: rest) = b.depth? (depth + 1) rest := by
  cases depth <;> rw [depth?, if_pos rfl]

theorem depth?_closing (b : Bracket) (depth : Nat) (rest : Text) :
    b.depth? (depth + 1) (b.closing :: rest) = b.depth? depth rest := by
  rw [depth?, if_neg b.closing_ne_opening, if_pos rfl]

theorem depth?_other {b : Bracket} {c : Char} (depth : Nat) (rest : Text) (ho : c ≠ b.opening)
    (hc : c ≠ b.closing) : b.depth? depth (c :: rest) = b.depth? depth rest := by
  cases depth <;> rw [depth?, if_neg ho, if_neg hc]

/-- Only the brackets of the kind count. -/
theorem depth?_filter (b : Bracket) (depth : Nat) (t : Text) :
    b.depth? depth (t.filter b.has) = b.depth? depth t := by
  induction t generalizing depth with
  | nil => rfl
  | cons c t ih =>
    by_cases ho : c = b.opening
    · subst ho
      rw [List.filter_cons_of_pos (by simp [has]), depth?_opening, depth?_opening, ih]
    · by_cases hc : c = b.closing
      · subst hc
        rw [List.filter_cons_of_pos (by simp [has])]
        cases depth with
        | zero => rw [depth?, depth?, if_neg ho, if_pos rfl, if_neg ho, if_pos rfl]
        | succ d => rw [depth?_closing, depth?_closing, ih]
      · rw [List.filter_cons_of_neg (by simp [has, ho, hc]), ih, depth?_other depth t ho hc]

theorem depth?_word_append {b : Bracket} {w : Text} (h : b.Word w) (depth : Nat) (rest : Text) :
    b.depth? depth (w ++ rest) = b.depth? depth rest := by
  induction h generalizing depth rest with
  | nil => rfl
  | pair _ _ ihu ihv =>
    rw [List.cons_append, depth?_opening, List.append_assoc, ihu, List.cons_append,
      depth?_closing, ihv]

theorem depth?_of_balanced {b : Bracket} {t : Text} (h : b.Balanced t) (depth : Nat) :
    b.depth? depth t = some depth := by
  rw [← depth?_filter, ← List.append_nil (t.filter b.has), depth?_word_append h]
  rfl

end Bracket

namespace Pairing

/-! ## Nothing to report -/

/-- **Nothing is reported for one kind of bracket** exactly when the depth counter comes out at
zero. -/
theorem brackets_eq_nil_iff {b : Bracket} {offset depth first : Nat} {t : Text} :
    brackets b offset depth first t = [] ↔ b.depth? depth t = some 0 := by
  induction t generalizing offset depth first with
  | nil =>
    rw [brackets, Bracket.depth?]
    cases depth with
    | zero => simp
    | succ d => simp
  | cons c t ih =>
    cases depth with
    | zero =>
      rw [brackets, Bracket.depth?]
      split
      · exact ih
      · split
        · simp
        · exact ih
    | succ d =>
      rw [brackets, Bracket.depth?]
      split
      · exact ih
      · split
        · exact ih
        · exact ih

/-- A content in which every quote belongs to a complete literal has an even number of each. -/
theorem count_content {plain : Char → Prop} {quoted : Quote → Char → Prop} {t : Text}
    (h : Content plain quoted t) (hp : ∀ c, plain c → ∀ q : Quote, c ≠ q.char)
    (hq : ∀ q c, quoted q c → ∀ q' : Quote, c ≠ q'.char) (q : Quote) :
    t.count q.char % 2 = 0 := by
  induction h with
  | nil => rfl
  | @char c rest hc _ ih =>
    rw [List.count_cons_of_ne (hp c hc q)]
    exact ih
  | @literal quote body rest hb _ ih =>
    have hbody : body.count q.char = 0 :=
      List.count_eq_zero.2 fun hm ↦ hq quote q.char (hb _ hm) q rfl
    rw [List.count_cons, List.count_append, List.count_cons, hbody]
    split <;> omega

theorem quotes_eq_nil {base : Nat} {content : Text} {q : Quote}
    (h : content.count q.char % 2 = 0) : quotes base content q = [] := by
  rw [quotes, if_neg (by omega)]

theorem count_trim (t : Text) (q : Quote) : t.trim.count q.char = t.count q.char := by
  have hblank : ∀ c, isBlank c = true → (c == q.char) = false := by
    intro c hc
    rw [beq_eq_false_iff_ne]
    rintro rfl
    revert hc
    cases q <;> decide
  rw [List.count_eq_length_filter, List.count_eq_length_filter, Text.filter_trim t hblank]

/-- A block as it is written has nothing to report if the text between its delimiters has an even
number of each quote and its brackets are balanced. -/
theorem check_ofRaw_eq_nil {kind : BlockKind} {start : Nat} {raw : Text}
    (hq : ∀ q : Quote, raw.count q.char % 2 = 0) (hb : ∀ b : Bracket, b.Balanced raw) :
    check (Block.ofRaw kind start raw) = [] := by
  rw [check]
  split
  · rfl
  · have hquotes : ∀ q : Quote, quotes (Block.ofRaw kind start raw).contentOffset raw.trim q = [] :=
      fun q ↦ quotes_eq_nil (by rw [count_trim]; exact hq q)
    have hbrackets : ∀ (b : Bracket) (offset first : Nat),
        brackets b offset 0 first raw.trim = [] := fun b _ _ ↦
      brackets_eq_nil_iff.2 (Bracket.depth?_of_balanced (Bracket.balanced_trim.2 (hb b)) 0)
    rw [List.append_eq_nil_iff, List.flatMap_eq_nil_iff, List.flatMap_eq_nil_iff]
    exact ⟨fun q _ ↦ hquotes q, fun b _ ↦ hbrackets b _ _⟩

end Pairing
end TemplateAssist
