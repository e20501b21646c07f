import TemplateAssist.Number.Digits

/-!
# Writing JSON

A document is written over several lines, with two spaces for each level, and in ASCII only: any
other character is written as an escape with four hexadecimal digits, or as a surrogate pair of
two.
-/

set_option autoImplicit false

namespace TemplateAssist
namespace Json

/-- A JSON document to be written. -/
inductive Document where
  | null
  | bool (b : Bool)
  | int (n : Int)
  | text (s : Text)
  | list (items : List Document)
  | object (fields : List (String × Document))

namespace Document

/-- A text, or null. -/
def ofText? : Option Text → Document
  | some s => text s
  | none => null

/-- A natural number, or null. -/
def ofNat? : Option Nat → Document
  | some n => int n
  | none => null

/-- A truth value, or null. -/
def ofBool? : Option Bool → Document
  | some b => bool b
  | none => null

/-! ## Strings -/

/-- An escape with a four-digit number. -/
def unicodeEscape (n : Nat) : Text := ['\\', 'u'] ++ paddedDigits 16 4 n

/-- A character as it is written in a string. -/
def escape (c : Char) : Text :=
  if c = '"' then ['\\', '"']
  else if c = '\\' then ['\\', '\\']
  else if c = '\n' then ['\\', 'n']
  else if c = '\r' then ['\\', 'r']
  else if c = '\t' then ['\\', 't']
  else if c = '\x08' then ['\\', 'b']
  else if c = '\x0c' then ['\\', 'f']
  else if 32 ≤ c.toNat ∧ c.toNat < 127 then [c]
  else if c.toNat < 0x10000 then unicodeEscape c.toNat
  else
    let n := c.toNat - 0x10000
    unicodeEscape (0xD800 + n / 0x400) ++ unicodeEscape (0xDC00 + n % 0x400)

/-- A text in quotes. -/
def quote (s : Text) : Text := '"' :: s.flatMap escape ++ ['"']

/-! ## Layout -/

/-- A new line at some level. -/
def newline (level : Nat) : Text := '\n' :: List.replicate (2 * level) ' '

mutual

/-- The document, whose first line is at some level. -/
def writeAt (level : Nat) : Document → Text
  | null => "null".toList
  | bool b => (if b then "true" else "false").toList
  | int n => (toString n).toList
  | text s => quote s
  | list [] => ['[', ']']
  | list (item :: items) =>
    ['['] ++ newline (level + 1) ++ writeAt (level + 1) item ++ writeItems (level + 1) items
      ++ newline level ++ [']']
  | object [] => ['{', '}']
  | object ((name, value) :: fields) =>
    ['{'] ++ newline (level + 1) ++ quote name.toList ++ [':', ' '] ++ writeAt (level + 1) value
      ++ writeFields (level + 1) fields ++ newline level ++ ['}']

/-- The items after the first. -/
def writeItems (level : Nat) : List Document → Text
  | [] => []
  | item :: items => [','] ++ newline level ++ writeAt level item ++ writeItems level items

/-- The fields after the first. -/
def writeFields (level : Nat) : List (String × Document) → Text
  | [] => []
  | (name, value) :: fields =>
    [','] ++ newline level ++ quote name.toList ++ [':', ' '] ++ writeAt level value
      ++ writeFields level fields

end

/-- The document over several lines. -/
def write (d : Document) : Text := writeAt 0 d

end Document
end Json
end TemplateAssist
