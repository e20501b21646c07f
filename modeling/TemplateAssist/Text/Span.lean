import TemplateAssist.Text.Basic

/-!
# Spans

A span is a half-open range of offsets.  It is over any type of offsets: those in a text are
natural numbers, and a host may mark other places.
-/

set_option autoImplicit false

namespace TemplateAssist

/-- A half-open range of offsets: `start` is the first, and `stop` the first beyond. -/
structure Span (α : Type) where
  start : α
  stop : α
  deriving DecidableEq, Repr

namespace Span

/-- Whether two spans share an offset.  An empty span shares one with each span that has its
offset strictly inside. -/
def overlaps {α : Type} [LT α] [DecidableLT α] (a b : Span α) : Bool :=
  a.start < b.stop && b.start < a.stop

/-- The span moved `n` further on. -/
def shift (n : Nat) (s : Span Nat) : Span Nat := ⟨s.start + n, s.stop + n⟩

/-- The span of one character. -/
def single (offset : Nat) : Span Nat := ⟨offset, offset + 1⟩

/-- The characters of a text that a span covers. -/
def of (s : Span Nat) (t : Text) : Text := t.slice s.start s.stop

/-- The order of spans in a text: by start, and by end where the starts agree. -/
def before (a b : Span Nat) : Bool :=
  a.start < b.start || (a.start == b.start && a.stop ≤ b.stop)

end Span

end TemplateAssist
