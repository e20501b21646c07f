import TemplateAssist.Block.Basic

/-!
# Finding the blocks of a text

The blocks of a text are found in one walk over it, from one `State` to the next, which reports an
`Item` whenever a block ends.  Inside an expression or a statement the walk steps over string
literals, so that a closer in quotes does not end the block.

A quote only starts a string literal if the same quote ends it on the same line (a backslash
carries the next character along, a newline too).  The walk finds out by trying: it enters the
`quoted` mode, and if the line or the text ends first, it goes back to just after the quote and
reads on as if the quote were an ordinary character.  So that this cannot happen over and over on
one stretch of text, it remembers in `Settled` up to where quotes of each kind are known to start
no string.  Going back therefore costs each stretch at most one more pass per kind of quote, and
the whole walk takes at most three steps per character and three more: that is the number of steps
which `items` grants it.

* `step` — one step of the walk;
* `run` — the items met in a given number of steps;
* `Text.items`, `Text.blocks`, `Text.brokenBlocks` — the results for a whole text.
-/

set_option autoImplicit false

namespace TemplateAssist
namespace Walk

/-! ## States -/

/-- A place in the text: its offset, and the text from there on. -/
structure Place where
  offset : Nat
  rest : Text
  deriving DecidableEq, Repr

/-- The place `n` characters further on. -/
def Place.advance (n : Nat) (p : Place) : Place := ⟨p.offset + n, p.rest.drop n⟩

/-- A block whose closer has not been met yet. -/
structure Opened where
  kind : BlockKind
  /-- The offset of the opener. -/
  start : Nat
  /-- The text after the opener. -/
  body : Text
  deriving DecidableEq, Repr

/-- The block, if its closer stands at offset `closeAt`. -/
def Opened.toBlock (o : Opened) (closeAt : Nat) : Block :=
  Block.ofRaw o.kind o.start (o.body.take (closeAt - (o.start + 2)))

/-- Where the walk is. -/
inductive Mode where
  /-- Between blocks. -/
  | outside
  /-- In a block, and in no string literal. -/
  | inside (o : Opened)
  /-- In a block, after a quote that may start a string literal.  `resume` is the place just after
  that quote, where the walk goes on if it turns out to start none. -/
  | quoted (o : Opened) (quote : Quote) (resume : Place)
  deriving DecidableEq, Repr

/-- Quotes of each kind that stand before these offsets start no string literal. -/
structure Settled where
  double : Nat
  single : Nat
  deriving DecidableEq, Repr

/-- The offset for one kind of quote. -/
def Settled.get (s : Settled) : Quote → Nat
  | .double => s.double
  | .single => s.single

/-- The offset for one kind of quote replaced. -/
def Settled.set (s : Settled) (offset : Nat) : Quote → Settled
  | .double => { s with double := offset }
  | .single => { s with single := offset }

/-- The state of the walk. -/
structure State where
  mode : Mode
  place : Place
  settled : Settled
  deriving DecidableEq, Repr

/-- The state at the start of a text. -/
def State.start (t : Text) : State := ⟨.outside, ⟨0, t⟩, ⟨0, 0⟩⟩

/-! ## Steps -/

/-- What one step leads to: a further state, or the end of the walk; and the item it reports. -/
inductive Outcome where
  | next (s : State) (report : Option Item)
  | done (report : Option Item)
  deriving DecidableEq, Repr

/-- The item that the closer of `found`, met at `offset`, makes of an open block. -/
def Opened.close (o : Opened) (offset : Nat) (found : BlockKind) : Item :=
  if found = o.kind then .block (o.toBlock offset) else .mismatch offset o.kind found

/-- The step at the end of a text of `length` characters. -/
def stepAtEnd (length : Nat) (s : State) : Outcome :=
  match s.mode with
  | .outside => .done none
  | .inside o => .done (some (.unclosed o.start length))
  | .quoted o quote resume => .next ⟨.inside o, resume, s.settled.set length quote⟩ none

/-- The step between blocks. -/
def stepOutside (s : State) : Outcome :=
  match BlockKind.opening? s.place.rest with
  | some (kind, body) =>
    .next ⟨.inside ⟨kind, s.place.offset, body⟩, s.place.advance 2, s.settled⟩ none
  | none => .next { s with place := s.place.advance 1 } none

/-- Whether a quote of an open block is to be tried as the start of a string literal. -/
def mayQuote (s : State) (o : Opened) (quote : Quote) : Bool :=
  o.kind != .comment && s.settled.get quote ≤ s.place.offset

/-- The step in a block, at character `c`. -/
def stepInside (s : State) (o : Opened) (c : Char) : Outcome :=
  match BlockKind.closing? s.place.rest with
  | some (found, _) =>
    .next ⟨.outside, s.place.advance 2, s.settled⟩ (some (o.close s.place.offset found))
  | none =>
    let after := s.place.advance 1
    match Quote.ofChar? c with
    | some quote =>
      if mayQuote s o quote then .next ⟨.quoted o quote after, after, s.settled⟩ none
      else .next { s with place := after } none
    | none => .next { s with place := after } none

/-- The step after a quote, at character `c`. -/
def stepQuoted (s : State) (o : Opened) (quote : Quote) (resume : Place) (c : Char) : Outcome :=
  if c = '\\' then .next { s with place := s.place.advance 2 } none
  else if c = quote.char then .next ⟨.inside o, s.place.advance 1, s.settled⟩ none
  else if c = '\n' then .next ⟨.inside o, resume, s.settled.set s.place.offset quote⟩ none
  else .next { s with place := s.place.advance 1 } none

/-- One step of the walk over a text of `length` characters. -/
def step (length : Nat) (s : State) : Outcome :=
  match s.place.rest with
  | [] => stepAtEnd length s
  | c :: _ =>
    match s.mode with
    | .outside => stepOutside s
    | .inside o => stepInside s o c
    | .quoted o quote resume => stepQuoted s o quote resume c

/-- The items that the next `n` steps report. -/
def run (length : Nat) : Nat → State → List Item
  | 0, _ => []
  | n + 1, s =>
    match step length s with
    | .done report => report.toList
    | .next s' none => run length n s'
    | .next s' (some item) => item :: run length n s'

end Walk

/-! ## Results -/

namespace Text

/-- The blocks and broken blocks of a text, in order. -/
def items (t : Text) : List Item := Walk.run t.length (3 * t.length + 3) (.start t)

/-- The correctly delimited blocks of a text, in order. -/
def blocks (t : Text) : List Block := t.items.filterMap Item.block?

/-- The findings for the broken blocks of a text, in order. -/
def brokenBlocks (t : Text) : List Finding := t.items.filterMap Item.finding?

end Text

end TemplateAssist
