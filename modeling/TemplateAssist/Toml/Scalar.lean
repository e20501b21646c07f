import TemplateAssist.Calendar
import TemplateAssist.Data
import TemplateAssist.Number.Digits

/-!
# TOML strings, numbers and moments

Each reader takes a text and gives what it reads from its start with the text that is left, or
`none`.  An integer can have too many digits, so numbers and what may be one are read with the fault
that there is.
-/

set_option autoImplicit false

namespace TemplateAssist
namespace Toml

/-- Whether a character is a control character other than the tab. -/
def isControl (c : Char) : Bool := (c.toNat < 32 && c != '\t') || c.toNat == 127

/-- Whether a character is white space within a line. -/
def isSpace (c : Char) : Bool := c == ' ' || c == '\t'

/-- The text after the white space at its start. -/
def skipSpace (t : Text) : Text := t.dropWhile isSpace

/-- The text after the white space and the newlines at its start. -/
def skipLines (t : Text) : Text := t.dropWhile fun c ↦ isSpace c || c == '\n'

/-! ## Strings -/

/-- The rest of a literal string on one line, after its first quote. -/
def literalLine? (t : Text) : Option (Text × Text) :=
  let content := t.takeWhile (· ≠ '\'')
  if content.any isControl || content.length = t.length then none
  else some (content, t.drop (content.length + 1))

/-- The one or two quotes that may stand before the three that end a string over several lines. -/
def extraQuotes (quote : Char) (content rest : Text) : Text × Text :=
  let extra := (rest.take 2).takeWhile (· == quote)
  (content ++ extra, rest.drop extra.length)

/-- The rest of a literal string over several lines, after its first three quotes; the characters
in `read` have been read already, the last one first. -/
def literalLines? (read : Text) : Text → Option (Text × Text)
  | '\'' :: '\'' :: '\'' :: rest => some (extraQuotes '\'' read.reverse rest)
  | c :: rest => if isControl c && c != '\n' then none else literalLines? (c :: read) rest
  | [] => none

/-- The character that one letter after a backslash stands for. -/
def escaped? : Char → Option Char
  | 'b' => some '\x08'
  | 't' => some '\t'
  | 'n' => some '\n'
  | 'f' => some '\x0c'
  | 'r' => some '\r'
  | '"' => some '"'
  | '\\' => some '\\'
  | _ => none

/-- The character with a code point of `width` hexadecimal digits at the start of a text. -/
def codePoint? (width : Nat) (t : Text) : Option Char :=
  let digits : Text := t.take width
  let n := digitsValueIn 16 digits
  if digits.length = width ∧ digits.all (isDigitIn 16) ∧ n.isValidChar then some (Char.ofNat n)
  else none

/-- If a backslash at the end of a line stands before a text, the number of characters after it
that it removes: white space, a newline, and all white space and newlines after that. -/
def lineContinuation? (t : Text) : Option Nat :=
  match skipSpace t with
  | '\n' :: rest => some (t.length - (skipLines rest).length)
  | _ => none

/-- The characters that an escape stands for and its length, for the text after the backslash. -/
def escape? (lines : Bool) (t : Text) : Option (Text × Nat) :=
  match t with
  | 'u' :: digits => (codePoint? 4 digits).map fun c ↦ ([c], 5)
  | 'U' :: digits => (codePoint? 8 digits).map fun c ↦ ([c], 9)
  | letter :: _ =>
    match escaped? letter with
    | some c => some ([c], 1)
    | none => if lines then (lineContinuation? t).map fun n ↦ ([], n) else none
  | [] => none

/-- The rest of a basic string after its first quote or quotes; `lines` says whether it may go over
several lines.  The characters in `read` have been read already, the last one first, and the first
`skip` characters belong to an escape. -/
def basic? (lines : Bool) (read : Text) (skip : Nat) : Text → Option (Text × Text)
  | [] => none
  | c :: rest =>
    match skip with
    | n + 1 => basic? lines read n rest
    | 0 =>
      if c = '"' then
        if !lines then some (read.reverse, rest)
        else if ['"', '"'].isPrefixOf rest then some (extraQuotes '"' read.reverse (rest.drop 2))
        else basic? lines (c :: read) 0 rest
      else if c = '\\' then
        match escape? lines rest with
        | some (chars, n) => basic? lines (chars ++ read) n rest
        | none => none
      else if isControl c && !(lines && c == '\n') then none
      else basic? lines (c :: read) 0 rest

/-- The text after the newline at its start, if there is one. -/
def afterNewline : Text → Text
  | '\n' :: rest => rest
  | t => t

/-- The string at the start of a text. -/
def string? : Text → Option (Text × Text)
  | '"' :: '"' :: '"' :: rest => basic? true [] 0 (afterNewline rest)
  | '"' :: rest => basic? false [] 0 rest
  | '\'' :: '\'' :: '\'' :: rest => literalLines? [] (afterNewline rest)
  | '\'' :: rest => literalLine? rest
  | _ => none

/-! ## Numbers -/

/-- The digits of a base after a first one, with single underscores between them. -/
def moreDigits (base : Nat) : Text → Text × Text
  | [] => ([], [])
  | c :: rest =>
    if isDigitIn base c then
      let (digits, rest) := moreDigits base rest
      (c :: digits, rest)
    else
      match c, rest with
      | '_', d :: after =>
        if isDigitIn base d then
          let (digits, rest) := moreDigits base after
          (d :: digits, rest)
        else ([], c :: rest)
      | _, _ => ([], c :: rest)

/-- The digits of a base at the start of a text, with single underscores between them. -/
def digits? (base : Nat) : Text → Option (Text × Text)
  | [] => none
  | c :: rest =>
    if isDigitIn base c then
      let (digits, rest) := moreDigits base rest
      some (c :: digits, rest)
    else none

/-- The whole part of a decimal number: zero, or digits that do not start with zero. -/
def whole? : Text → Option (Text × Text)
  | '0' :: rest => some (['0'], rest)
  | t => digits? 10 t

/-- The fraction at the start of a text; it is empty if there is none. -/
def fraction (t : Text) : Text × Text :=
  match t with
  | '.' :: rest => (digits? 10 rest).getD ([], t)
  | _ => ([], t)

/-- The sign at the start of a text, if there is one. -/
def sign : Text → Bool × Text
  | '-' :: rest => (true, rest)
  | '+' :: rest => (false, rest)
  | t => (false, t)

/-- The exponent at the start of a text. -/
def exponent? : Text → Option (Int × Text)
  | [] => none
  | c :: rest =>
    if c = 'e' ∨ c = 'E' then
      let (negative, body) := sign rest
      (digits? 10 body).map fun (digits, rest) ↦ (signed negative (digitsValue digits), rest)
    else none

/-- The decimal number at the start of a text. -/
def decimal? (t : Text) : Except DataFault (Data × Text) := do
  let (negative, body) := sign t
  let (whole, rest) ← DataFault.orMalformed (whole? body)
  let (places, rest) := fraction rest
  let float (power : Int) : Data :=
    .float (.ofDecimal negative (digitsValue (whole ++ places)) (power - places.length))
  match exponent? rest with
  | some (power, rest) => return (float power, rest)
  | none =>
    if places.isEmpty then return (← DataFault.integer negative whole, rest)
    return (float 0, rest)

/-- The number in base sixteen, two or eight at the start of a text. -/
def otherBase? (t : Text) : Option (Data × Text) :=
  let number (base : Nat) (body : Text) : Option (Data × Text) :=
    (digits? base body).map fun (digits, rest) ↦ (.int (digitsValueIn base digits), rest)
  match t with
  | '0' :: 'x' :: body => number 16 body
  | '0' :: 'b' :: body => number 2 body
  | '0' :: 'o' :: body => number 8 body
  | _ => none

/-- The word for a value at the start of a text. -/
def constant? (t : Text) : Option (Data × Text) :=
  [("true", Data.bool true), ("false", .bool false), ("inf", .float (.infinite false)),
    ("+inf", .float (.infinite false)), ("-inf", .float (.infinite true)), ("nan", .float .nan),
    ("+nan", .float .nan), ("-nan", .float .nan)].findSome? fun (word, value) ↦
      if word.toList.isPrefixOf t then some (value, t.drop word.length) else none

/-! ## Moments -/

/-- The time of day at the start of a text, which is left out of the text: hours, minutes and
seconds, and perhaps a fraction. -/
def timeOfDay? (t : Text) : Option Text :=
  match Date.number? 2 (t.take 2), Date.number? 2 (t.slice 3 5), Date.number? 2 (t.slice 6 8) with
  | some hours, some minutes, some seconds =>
    if hours < 24 ∧ minutes < 60 ∧ seconds < 60 ∧ t[2]? = some ':' ∧ t[5]? = some ':' then
      let rest := t.drop 8
      match rest with
      | '.' :: more =>
        some (if (leadingDigits more).isEmpty then rest else more.dropWhile Char.isDigit)
      | _ => some rest
    else none
  | _, _, _ => none

/-- The text after the offset from universal time at its start, if there is one. -/
def skipZone (t : Text) : Text :=
  match t with
  | 'Z' :: rest => rest
  | 'z' :: rest => rest
  | sign :: rest =>
    match Date.number? 2 (rest.take 2), Date.number? 2 (Text.slice rest 3 5) with
    | some hours, some minutes =>
      if (sign = '+' ∨ sign = '-') ∧ rest[2]? = some ':' ∧ hours < 24 ∧ minutes < 60 then
        rest.drop 5
      else t
    | _, _ => t
  | [] => t

/-- Whether a text starts like a date: four digits, a month and a day up to 31. -/
def startsDate (t : Text) : Bool :=
  match Date.number? 4 (t.take 4), Date.number? 2 (t.slice 5 7), Date.number? 2 (t.slice 8 10) with
  | some _, some month, some day =>
    t[4]? == some '-' && t[7]? == some '-' && 1 ≤ month && month ≤ 12 && 1 ≤ day && day ≤ 31
  | _, _, _ => false

/-- The moment after a date at the start of a text. -/
def afterDate (t : Text) : Data × Text :=
  match t with
  | separator :: time =>
    match timeOfDay? time with
    | some rest =>
      if ['T', 't', ' '].contains separator then (.moment .dateTime, skipZone rest)
      else (.moment .date, t)
    | none => (.moment .date, t)
  | [] => (.moment .date, t)

/-- The string, number, moment or constant at the start of a text.  What starts like a date and is
none is refused. -/
def scalar? (t : Text) : Except DataFault (Data × Text) :=
  match t with
  | '"' :: _ => (DataFault.orMalformed (string? t)).map fun (s, rest) ↦ (.text s, rest)
  | '\'' :: _ => (DataFault.orMalformed (string? t)).map fun (s, rest) ↦ (.text s, rest)
  | _ =>
    if startsDate t then
      (DataFault.orMalformed (Date.atStart? t)).map fun _ ↦ afterDate (t.drop 10)
    else
      match ((timeOfDay? t).map fun rest ↦ (Data.moment .time, rest)).or
          ((otherBase? t).or (constant? t)) with
      | some read => .ok read
      | none => decimal? t

end Toml
end TemplateAssist
