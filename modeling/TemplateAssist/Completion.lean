import TemplateAssist.Completion.Pool
import TemplateAssist.Cursor.Context
import TemplateAssist.Text.Span

/-!
# Completing what is being typed

The context at the cursor decides which candidates there are.  Of these, the ones whose label
starts with what was typed are offered, up to the number that the settings allow, together with
the span of the text that an accepted candidate replaces.

When a dot was just typed where no path is recognised on the line, the path is searched in a
window before the cursor, in case the expression was opened on an earlier line.
-/

set_option autoImplicit false

namespace TemplateAssist

/-- The candidates offered, and the text that an accepted one replaces. -/
structure Completion where
  span : Span Nat
  candidates : List Candidate
  deriving DecidableEq, Repr

namespace Completion

/-- All candidates in a context. -/
def pool (tree : VariableTree) : Context → List Candidate
  | .prose => Pool.starters
  | .brace .. => Pool.starters
  | .block .statement _ closed =>
    Pool.statements closed ++ Pool.operators ++ Pool.builtins ++ tree.flatten ++ Pool.tests
  | .block .expression .. =>
    tree.flatten ++ Pool.builtins ++ Pool.filters ++ Pool.operators
  | .block .comment .. => []
  | .property path .. => tree.properties path

/-- The path for a dot just typed before the cursor, if the context does not have it already. -/
def dotPath? (settings : Settings) (t : Text) (cursor : Nat) : Context → Option Text
  | .property .. => none
  | _ => objectPathBefore? t cursor settings.dotLookback

/-- The span that a candidate replaces in a context. -/
def replaced (t : Text) (cursor : Nat) : Context → Span Nat
  | .prose => ⟨cursor, cursor⟩
  | .brace _ start stop => ⟨start, stop⟩
  | .block .. => ⟨cursor - (t.lineBefore cursor).2.trailingWord.length, cursor⟩
  | .property _ typed _ => ⟨cursor - typed.length, cursor⟩

/-- The completion with those candidates that match, cut to the allowed number.  Without any there
is no completion, unless a dot was just typed. -/
def offer (settings : Settings) (dotTyped : Bool) (typed : Text) (candidates : List Candidate)
    (span : Span Nat) : Option Completion :=
  let found := candidates.filter (·.isMatch typed)
  if found.isEmpty && !dotTyped then none
  else some ⟨span, found.take settings.maxCandidates⟩

end Completion

/-- Whether a dot stands just before the cursor. -/
def dotBefore (t : Text) (cursor : Nat) : Bool := 0 < cursor && t[cursor - 1]? == some '.'

open Completion in
/-- The completion at a cursor, which is moved into the text first.  Comments have none. -/
def complete (settings : Settings) (tree : VariableTree) (t : Text) (pos : Int) :
    Option Completion :=
  let cursor := t.clamp pos
  let context := t.contextWithin settings cursor
  let dotTyped := dotBefore t cursor
  match context with
  | .block .comment .. => none
  | _ =>
    match if dotTyped then dotPath? settings t cursor context else none with
    | some path => offer settings dotTyped [] (tree.properties path) ⟨cursor, cursor⟩
    | none =>
      offer settings dotTyped context.typed (pool tree context) (replaced t cursor context)

end TemplateAssist
