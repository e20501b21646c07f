import TemplateAssist.Number.Digits
import TemplateAssist.Report.Emoji.Names
import TemplateAssist.Text.Blank
import TemplateAssist.Text.LowerCase

/-!
# Emoji codes

In text for the terminal an emoji can be written by its name between colons.  `Emoji.ofName?` finds
the emoji of a name, and `Emoji.expand` puts the emoji in the place of the codes of a text.  A code
whose name is not known stays as it is.
-/

set_option autoImplicit false

namespace TemplateAssist
namespace Emoji

/-! ## Names -/

/-- The entries of a table, each with what `read` makes of the text after the equals sign. -/
def entries (read : Text → Text) (table : List String) : List (Text × Text) :=
  table.flatMap fun line ↦ (List.splitOn ' ' line.toList).map fun entry ↦
    let name := Text.upTo '=' entry
    (name, read (entry.drop (name.length + 1)))

/-- The characters that code points in hexadecimal digits stand for. -/
def ofCodes (codes : Text) : Text :=
  (List.splitOn '-' codes).map fun code ↦ Char.ofNat (digitsValueIn 16 code)

/-- The flag of a country, given by the letters of its code. -/
def flag (letters : Text) : Text :=
  letters.map fun c ↦ Char.ofNat (0x1F1E6 + (c.toNat - 'a'.toNat))

/-- The flags by the names of their countries. -/
def flags : List (Text × Text) := entries flag countryTable

/-- The emoji of people by their names. -/
def people : List (Text × Text) := entries ofCodes personTable

/-- The other emoji by their names. -/
def symbols : List (Text × Text) := entries ofCodes symbolTable

/-- The endings of names that give a tone of skin, and the characters for them. -/
def skinTones : List (Text × Char) :=
  [("_light_skin_tone".toList, Char.ofNat 0x1F3FB),
    ("_medium-light_skin_tone".toList, Char.ofNat 0x1F3FC),
    ("_medium_skin_tone".toList, Char.ofNat 0x1F3FD),
    ("_medium-dark_skin_tone".toList, Char.ofNat 0x1F3FE),
    ("_dark_skin_tone".toList, Char.ofNat 0x1F3FF)]

/-- An emoji with a tone of skin, which follows its first character in the place of a selector. -/
def withTone (tone : Char) : Text → Text
  | [] => [tone]
  | c :: rest => c :: tone :: rest.dropWhile (· = '\ufe0f')

/-- The emoji of a person whose name has one of the endings for a tone of skin. -/
def toned? (name : Text) : Option Text :=
  skinTones.findSome? fun (ending, tone) ↦
    if ending.isSuffixOf name then
      (people.lookup (name.take (name.length - ending.length))).map (withTone tone)
    else none

/-- The flag of a name that starts as those of flags do. -/
def flagFor? (name : Text) : Option Text :=
  let start := "flag_for_".toList
  if start.isPrefixOf name then flags.lookup (name.drop start.length) else none

/-- The emoji of a name in small letters. -/
def ofName? (name : Text) : Option Text :=
  (symbols.lookup name).or ((people.lookup name).or ((flags.lookup name).or
    ((toned? name).or (flagFor? name))))

/-! ## Codes -/

/-- The endings of codes that ask for an emoji to be shown as a sign or as a picture, and the
selectors for them. -/
def variants : List (Text × Char) := [("-emoji".toList, '\ufe0f'), ("-text".toList, '\ufe0e')]

/-- The emoji that a code stands for, given what is between its colons. -/
def ofCode? (code : Text) : Option Text :=
  match variants.find? fun (ending, _) ↦ ending.isSuffixOf code with
  | some (ending, selector) =>
    (ofName? (Text.lower (code.take (code.length - ending.length)))).map (· ++ [selector])
  | none => ofName? (Text.lower code)

/-- What is between a colon and the next one, if there is no blank in it; `t` is what follows the
first colon. -/
def code? (t : Text) : Option Text :=
  let code := t.takeWhile fun c ↦ c ≠ ':' && !isBlank c
  if t[code.length]? = some ':' then some code else none

/-- The remaining text with emoji for its codes; its first `skip` characters belong to a code. -/
def expandFrom (skip : Nat) : Text → Text
  | [] => []
  | c :: rest =>
    match skip with
    | n + 1 => expandFrom n rest
    | 0 =>
      if c = ':' then
        match code? rest with
        | none => c :: expandFrom 0 rest
        | some code =>
          (ofCode? code).getD (':' :: code ++ [':']) ++ expandFrom (code.length + 1) rest
      else c :: expandFrom 0 rest

/-- The text with emoji for its codes. -/
def expand (t : Text) : Text := expandFrom 0 t

end Emoji
end TemplateAssist
