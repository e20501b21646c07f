import TemplateAssist.Block.Basic

/-!
# Pairs of quotes and brackets

A surface check on the content of every expression and statement.  Quotes of each kind have to be
even in number.  Brackets of each kind are followed with one depth counter per kind, independently
of the other kinds: a closer at depth zero is reported, and if the depth is not zero at the end,
so is the opener where it last left zero.
-/

set_option autoImplicit false

namespace TemplateAssist

/-- All kinds of quote, in the order in which they are checked. -/
def Quote.all : List Quote := [.double, .single]

/-- All kinds of bracket, in the order in which they are checked. -/
def Bracket.all : List Bracket := [.parenthesis, .square, .brace]

namespace Pairing

/-- The offset of the last occurrence of a character. -/
def lastIndex (c : Char) (t : Text) : Nat := t.length - 1 - t.reverse.idxOf c

/-- The finding for quotes of one kind in content that starts at `base`: if their number is odd,
the last one is marked. -/
def quotes (base : Nat) (content : Text) (quote : Quote) : List Finding :=
  if content.count quote.char % 2 = 1 then
    [⟨.single (base + lastIndex quote.char content), .unmatchedQuote quote, .error⟩]
  else []

/-- The findings for brackets of one kind in the content that is left, which starts at `offset`.
`depth` brackets are open, and `first` is the offset at which the depth last left zero. -/
def brackets (bracket : Bracket) (offset depth first : Nat) : Text → List Finding
  | [] => if 0 < depth then [⟨.single first, .unmatchedOpening bracket, .error⟩] else []
  | c :: rest =>
    if c = bracket.opening then
      brackets bracket (offset + 1) (depth + 1) (if depth = 0 then offset else first) rest
    else if c = bracket.closing then
      match depth with
      | 0 =>
        ⟨.single offset, .unexpectedClosing bracket, .error⟩
          :: brackets bracket (offset + 1) 0 first rest
      | d + 1 => brackets bracket (offset + 1) d first rest
    else brackets bracket (offset + 1) depth first rest

/-- The findings for one block: quotes first, then brackets.  Comments hold free prose. -/
def check (b : Block) : List Finding :=
  if b.kind = .comment then []
  else
    Quote.all.flatMap (quotes b.contentOffset b.content) ++
      Bracket.all.flatMap fun bracket ↦
        brackets bracket b.contentOffset 0 b.contentOffset b.content

end Pairing

/-- The findings about quotes and brackets, block by block. -/
def pairing (blocks : List Block) : List Finding := blocks.flatMap Pairing.check

end TemplateAssist
