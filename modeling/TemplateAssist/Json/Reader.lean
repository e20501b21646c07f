import TemplateAssist.Data
import TemplateAssist.Number.Digits

/-!
# Reading JSON

The reader accepts the JSON grammar, and the words `NaN`, `Infinity` and `-Infinity` for numbers.
Control characters have to be escaped in strings.  In an object with a repeated name the last
value counts, in the first position.  A number is an integer if it has neither a point nor an
exponent.

The parts of the reader take a text and give what they read from its start with the text that is
left, or the first fault.  A value may hold others, so the recursion is on a bound for the number of
parts; the length of the text is one.  Values may be nested to any depth: the limit on the depth
that a call stack sets is left out.
-/

set_option autoImplicit false

namespace TemplateAssist
namespace Json

/-- The text after any white space at its start. -/
def skipSpace (t : Text) : Text :=
  t.dropWhile fun c ↦ c == ' ' || c == '\t' || c == '\n' || c == '\r'

/-- The text after `word`, if it starts with it. -/
def after? (word t : Text) : Option Text :=
  if word.isPrefixOf t then some (t.drop word.length) else none

/-! ## Strings -/

/-- The four-digit number at the start of a text. -/
def unit? (t : Text) : Option Nat :=
  let digits : Text := t.take 4
  if digits.length = 4 ∧ digits.all (isDigitIn 16) then some (digitsValueIn 16 digits) else none

/-- The character that one letter after a backslash stands for. -/
def escaped? : Char → Option Char
  | '"' => some '"'
  | '\\' => some '\\'
  | '/' => some '/'
  | 'b' => some '\x08'
  | 'f' => some '\x0c'
  | 'n' => some '\n'
  | 'r' => some '\r'
  | 't' => some '\t'
  | _ => none

/-- Whether a number is the first half of a surrogate pair. -/
def isHighSurrogate (n : Nat) : Bool := 0xD800 ≤ n && n ≤ 0xDBFF

/-- Whether a number is the second half of a surrogate pair. -/
def isLowSurrogate (n : Nat) : Bool := 0xDC00 ≤ n && n ≤ 0xDFFF

/-- The character of a code point; half of a surrogate pair on its own is shown as the
replacement character. -/
def charOf (n : Nat) : Char :=
  if isHighSurrogate n || isLowSurrogate n then '\ufffd' else Char.ofNat n

/-- The character that an escape with a four-digit number stands for, and the number of characters
that it takes after the letter u: a pair of such escapes may stand for one character. -/
def unicodeEscape? (t : Text) : Option (Char × Nat) :=
  (unit? t).map fun high ↦
    match isHighSurrogate high, after? ['\\', 'u'] (t.drop 4) with
    | true, some second =>
      match unit? second with
      | some low =>
        if isLowSurrogate low then
          (Char.ofNat (0x10000 + (high - 0xD800) * 0x400 + (low - 0xDC00)), 10)
        else (charOf high, 4)
      | none => (charOf high, 4)
    | _, _ => (charOf high, 4)

/-- The rest of a string after its first quote.  The characters in `read` have been read already,
the last one first, and the first `skip` characters belong to an escape. -/
def stringFrom? (read : Text) (skip : Nat) : Text → Option (Text × Text)
  | [] => none
  | c :: rest =>
    match skip with
    | n + 1 => stringFrom? read n rest
    | 0 =>
      if c = '"' then some (read.reverse, rest)
      else if c = '\\' then
        match rest with
        | 'u' :: digits =>
          match unicodeEscape? digits with
          | some (ch, n) => stringFrom? (ch :: read) (n + 1) rest
          | none => none
        | letter :: _ =>
          match escaped? letter with
          | some ch => stringFrom? (ch :: read) 1 rest
          | none => none
        | [] => none
      else if c.toNat < 32 then none
      else stringFrom? (c :: read) 0 rest

/-! ## Numbers -/

/-- The fraction at the start of a text, a point and at least one digit: its digits, and the
rest. -/
def fraction : Text → Text × Text
  | '.' :: rest =>
    if (leadingDigits rest).isEmpty then ([], '.' :: rest)
    else (leadingDigits rest, rest.drop (leadingDigits rest).length)
  | t => ([], t)

/-- The exponent at the start of a text: the letter e, perhaps a sign, and at least one digit. -/
def exponent? (t : Text) : Option (Int × Text) :=
  match t with
  | [] => none
  | e :: rest =>
    if e = 'e' ∨ e = 'E' then
      let (negative, body) : Bool × Text :=
        match rest with
        | '-' :: body => (true, body)
        | '+' :: body => (false, body)
        | _ => (false, rest)
      let ds := leadingDigits body
      if ds.isEmpty then none
      else some (signed negative (digitsValue ds), body.drop ds.length)
    else none

/-- The number at the start of a text. -/
def number? (t : Text) : Except DataFault (Data × Text) := do
  let (negative, body) : Bool × Text :=
    match t with
    | '-' :: body => (true, body)
    | _ => (false, t)
  let whole : Text :=
    match body with
    | '0' :: _ => ['0']
    | _ => leadingDigits body
  if whole.isEmpty then throw .malformed
  let (part, rest) := fraction (body.drop whole.length)
  match exponent? rest with
  | none =>
    if part.isEmpty then return (← DataFault.integer negative whole, rest)
    return (.float (.ofDecimal negative (digitsValue (whole ++ part)) (-part.length)), rest)
  | some (power, rest) =>
    return (.float (.ofDecimal negative (digitsValue (whole ++ part)) (power - part.length)), rest)

/-- The word for a value at the start of a text. -/
def constant? (t : Text) : Option (Data × Text) :=
  [("null", Data.null), ("true", .bool true), ("false", .bool false), ("NaN", .float .nan),
    ("Infinity", .float (.infinite false)), ("-Infinity", .float (.infinite true))].findSome?
    fun (word, value) ↦ (after? word.toList t).map fun rest ↦ (value, rest)

/-! ## Values -/

mutual

/-- The value at the start of a text. -/
def value? : Nat → Text → Except DataFault (Data × Text)
  | 0, _ => .error .malformed
  | bound + 1, t =>
    match t with
    | '"' :: rest =>
      (DataFault.orMalformed (stringFrom? [] 0 rest)).map fun (s, rest) ↦ (.text s, rest)
    | '[' :: rest =>
      match skipSpace rest with
      | ']' :: rest => .ok (.list [], rest)
      | rest => (items? bound rest).map fun (items, rest) ↦ (.list items, rest)
    | '{' :: rest =>
      match skipSpace rest with
      | '}' :: rest => .ok (.table [], rest)
      | rest => (members? bound rest).map fun (pairs, rest) ↦ (.table (fieldsOfPairs pairs), rest)
    | _ =>
      match constant? t with
      | some read => .ok read
      | none => number? t

/-- The remaining items of an array, at least one, and the closing bracket. -/
def items? : Nat → Text → Except DataFault (List Data × Text)
  | 0, _ => .error .malformed
  | bound + 1, t =>
    match value? bound t with
    | .error fault => .error fault
    | .ok (value, rest) =>
      match skipSpace rest with
      | ']' :: rest => .ok ([value], rest)
      | ',' :: rest =>
        (items? bound (skipSpace rest)).map fun (values, rest) ↦ (value :: values, rest)
      | _ => .error .malformed

/-- The remaining members of an object, at least one, and the closing brace. -/
def members? : Nat → Text → Except DataFault (List (Text × Data) × Text)
  | 0, _ => .error .malformed
  | bound + 1, t =>
    match t with
    | '"' :: rest =>
      match stringFrom? [] 0 rest with
      | none => .error .malformed
      | some (name, rest) =>
        match skipSpace rest with
        | ':' :: rest =>
          match value? bound (skipSpace rest) with
          | .error fault => .error fault
          | .ok (value, rest) =>
            match skipSpace rest with
            | '}' :: rest => .ok ([(name, value)], rest)
            | ',' :: rest =>
              (members? bound (skipSpace rest)).map fun (pairs, rest) ↦
                ((name, value) :: pairs, rest)
            | _ => .error .malformed
        | _ => .error .malformed
    | _ => .error .malformed

end

/-- The value that a whole text writes; white space may stand around it. -/
def read? (t : Text) : Except DataFault Data :=
  match value? (t.length + 1) (skipSpace t) with
  | .ok (value, rest) => if (skipSpace rest).isEmpty then .ok value else .error .malformed
  | .error fault => .error fault

end Json
end TemplateAssist
