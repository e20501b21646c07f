import TemplateAssist.Text.Basic

/-!
# Control sequences

A control sequence tells a terminal to change colours or to move the cursor: an escape character, an
opening bracket, numbers with semicolons and question marks among them, and a letter.  Text that
goes to a file has no use for them.
-/

set_option autoImplicit false

namespace TemplateAssist
namespace Text

/-- The number of characters that a control sequence takes after its escape character, if a text
starts with them. -/
def controlSequence? : Text → Option Nat
  | '[' :: rest =>
    let parameters := rest.takeWhile fun c ↦ c.isDigit || c = ';' || c = '?'
    if rest[parameters.length]?.any Char.isAlpha then some (parameters.length + 2) else none
  | _ => none

/-- The remaining text without control sequences; its first `skip` characters belong to one. -/
def dropControlFrom (skip : Nat) : Text → Text
  | [] => []
  | c :: rest =>
    match skip with
    | n + 1 => dropControlFrom n rest
    | 0 =>
      match if c = '\x1b' then controlSequence? rest else none with
      | some n => dropControlFrom n rest
      | none => c :: dropControlFrom 0 rest

/-- The text without control sequences. -/
def dropControl (t : Text) : Text := dropControlFrom 0 t

end Text
end TemplateAssist
