import TemplateAssist.Text.Basic

/-!
# The three kinds of block

A template marks its blocks with two-character delimiters: `{{ … }}` around an expression,
`{% … %}` around a statement and `{# … #}` around a comment.  The kind of a block determines both
of its delimiters.
-/

set_option autoImplicit false

namespace TemplateAssist

/-- What a block holds. -/
inductive BlockKind where
  | expression
  | statement
  | comment
  deriving DecidableEq, Repr

namespace BlockKind

/-- The delimiter that starts a block of this kind. -/
def opener : BlockKind → Text
  | expression => ['{', '{']
  | statement => ['{', '%']
  | comment => ['{', '#']

/-- The delimiter that ends a block of this kind. -/
def closer : BlockKind → Text
  | expression => ['}', '}']
  | statement => ['%', '}']
  | comment => ['#', '}']

/-- The kind's own name. -/
def name : BlockKind → String
  | expression => "expression"
  | statement => "statement"
  | comment => "comment"

/-- If a text starts with an opener, the kind that it opens and the text after it. -/
def opening? : Text → Option (BlockKind × Text)
  | '{' :: '{' :: rest => some (expression, rest)
  | '{' :: '%' :: rest => some (statement, rest)
  | '{' :: '#' :: rest => some (comment, rest)
  | _ => none

/-- If a text starts with a closer, the kind that it closes and the text after it. -/
def closing? : Text → Option (BlockKind × Text)
  | '}' :: '}' :: rest => some (expression, rest)
  | '%' :: '}' :: rest => some (statement, rest)
  | '#' :: '}' :: rest => some (comment, rest)
  | _ => none

/-- A text starts with an opener exactly when `opening?` finds it. -/
theorem opening?_eq_some_iff {t rest : Text} {kind : BlockKind} :
    opening? t = some (kind, rest) ↔ t = kind.opener ++ rest := by
  constructor
  · intro h
    unfold opening? at h
    split at h <;> simp_all [opener] <;> (obtain ⟨rfl, rfl⟩ := h; simp)
  · rintro rfl
    cases kind <;> rfl

/-- A text starts with a closer exactly when `closing?` finds it. -/
theorem closing?_eq_some_iff {t rest : Text} {kind : BlockKind} :
    closing? t = some (kind, rest) ↔ t = kind.closer ++ rest := by
  constructor
  · intro h
    unfold closing? at h
    split at h <;> simp_all [closer] <;> (obtain ⟨rfl, rfl⟩ := h; simp)
  · rintro rfl
    cases kind <;> rfl

theorem opening?_cons_eq_none {c : Char} (rest : Text) (h : c ≠ '{') :
    opening? (c :: rest) = none := by
  unfold opening?
  split <;> simp_all

/-- Only a brace, or a sign before a brace, starts a closer. -/
theorem closing?_cons_eq_none {c : Char} {rest : Text} (hc : c ≠ '}')
    (h : c = '%' ∨ c = '#' → rest.head? ≠ some '}') : closing? (c :: rest) = none := by
  unfold closing?
  split <;> simp_all

end BlockKind

end TemplateAssist
