import TemplateAssist.Calendar
import TemplateAssist.Form.Checked
import TemplateAssist.Text.Blank

/-!
# Reading the values of a form

Values are read leniently, because many of them come from forms and files as text.

* An integer may be given as a truth value, as a number without a fraction, or as text with blanks
  around it, zeros before it, single underscores between the digits and a fraction of zeros.
* A truth value may be given as 0 or 1, or as one of twelve words.
* A number may be given as a truth value or as text.
* A date may be given as text, alone or with a time of day which is midnight, or as the number of
  seconds since the start of 1970 (milliseconds, if it is over twenty thousand million).
-/

set_option autoImplicit false

namespace TemplateAssist
namespace Reading

/-- Whether a character is removed around text that stands for a number.  The four information
separators are not. -/
def isMargin (c : Char) : Bool := isBlank c && !(0x1C ≤ c.toNat && c.toNat ≤ 0x1F)

/-- The text without the characters that do not count around a number. -/
def strip (t : Text) : Text := Text.beforeTrailing isMargin (t.dropWhile isMargin)

/-- The sign at the start of a text, if there is one, and the text after it. -/
def sign : Text → Bool × Text
  | '-' :: rest => (true, rest)
  | '+' :: rest => (false, rest)
  | t => (false, t)

/-- The text without its underscores, if they are single and stand between other characters. -/
def dropUnderscores? (t : Text) : Option Text :=
  let groups := t.splitOn '_'
  if 1 < groups.length && groups.all (!·.isEmpty) then some groups.flatten else none

/-! ## Integers -/

/-- Whether a number without zeros before it can start with a character. -/
def startsInteger (c : Char) : Bool := ('1' ≤ c && c ≤ '9') || c == '-'

/-- What is left of a text after zeros, and underscores among them; `last` is the last of those.
One is left before a point or the end of the text. -/
def afterZeros? (last : Char) : Text → Option Text
  | [] => some [last]
  | c :: rest =>
    if c = '0' ∨ c = '_' then afterZeros? c rest
    else if startsInteger c then some (c :: rest)
    else if c = '.' then some (last :: c :: rest)
    else none

/-- The text without the zeros that it starts with. -/
def dropZeros? : Text → Option Text
  | [] => none
  | c :: rest =>
    if c = '0' then afterZeros? c rest else if startsInteger c then some (c :: rest) else none

/-- The text without a fraction of zeros. -/
def dropFraction (t : Text) : Text :=
  let whole := t.upTo '.'
  let zeros := t.drop (whole.length + 1)
  if !zeros.isEmpty && zeros.all (· == '0') then whole else t

/-- A text that should be an integer without what does not count in it. -/
def clean? (t : Text) : Option Text :=
  match strip t with
  | '+' :: '-' :: _ => none
  | body =>
    let (negative, body) := sign body
    (dropZeros? body).map fun digits ↦
      let digits := dropFraction digits
      (if negative then ['-'] else []) ++ (dropUnderscores? digits).getD digits

/-- The integer that a sign and digits write, which do not start with a zero unless it is the only
digit.  There can be too many of them, whatever follows. -/
def plainInteger (t : Text) : Except Fault Int :=
  let (negative, body) : Bool × Text :=
    match t with
    | '-' :: rest => (true, rest)
    | _ => (false, t)
  let digits := leadingDigits body
  if digits = ['0'] ∧ body = digits then .ok 0
  else if digits.isEmpty ∨ digits.head? = some '0' then .error .intParsing
  else if maxIntegerDigits < t.length - (body.length - digits.length) then .error .intSize
  else if body = digits then .ok (signed negative (digitsValue digits))
  else .error .intParsing

/-- The integer that a text writes. -/
def integer (t : Text) : Except Fault Int :=
  match plainInteger t, clean? t with
  | .error .intParsing, some cleaned => plainInteger cleaned
  | result, _ => result

/-- The least magnitude that an integer of 64 bits with a sign does not have. -/
def wordBound : Nat := 0x8000000000000000

/-- An integer.  One that is given as a number with a point has to fit into 64 bits. -/
def int : Data → Except Fault Int
  | .int n => .ok n
  | .bool b => .ok (if b then 1 else 0)
  | .float x =>
    match x with
    | .finite .. => match x.toInt? with
      | some n => if n.natAbs < wordBound then .ok n else .error .intSize
      | none => .error .intFromFloat
    | _ => .error .finiteNumber
  | .text t => integer t
  | _ => .error .intType

/-- An integer that is at least `least`. -/
def natFrom (least : Nat) (data : Data) : Except Fault Nat := do
  let n ← int data
  if n < least then throw .tooSmall
  return n.toNat

/-! ## Truth values -/

/-- The truth value that a word stands for, in either case. -/
def boolWord? (t : Text) : Option Bool :=
  let word := String.ofList (t.map Char.toLower)
  if ["1", "on", "t", "true", "y", "yes"].contains word then some true
  else if ["0", "off", "f", "false", "n", "no"].contains word then some false
  else none

/-- The truth value that an integer stands for.  One that does not fit into 64 bits is taken for
none. -/
def boolOf (n : Int) : Except Fault Bool :=
  if n = 0 then .ok false
  else if n = 1 then .ok true
  else if -(wordBound : Int) ≤ n ∧ n < wordBound then .error .boolParsing
  else .error .boolType

/-- A truth value.  An integer given as a number with a point has to be of a lesser magnitude than
the 64-bit integers have. -/
def bool : Data → Except Fault Bool
  | .bool b => .ok b
  | .int n => boolOf n
  | .float x =>
    match x.toInt? with
    | some n => if n.natAbs < wordBound then boolOf n else .error .boolType
    | none => .error .boolType
  | .text t =>
    match boolWord? t with
    | some b => .ok b
    | none => .error .boolParsing
  | _ => .error .boolType

/-! ## Numbers -/

/-- The exponent that ends a number: nothing, or the letter e, perhaps a sign, and digits. -/
def exponent? : Text → Option Int
  | [] => some 0
  | c :: rest =>
    let (negative, digits) := sign rest
    if (c = 'e' ∨ c = 'E') ∧ isDigits digits then some (signed negative (digitsValue digits))
    else none

/-- The number that digits, perhaps with a point among or around them, and an exponent write. -/
def decimal? (negative : Bool) (t : Text) : Option Binary64 :=
  let whole := t.takeWhile Char.isDigit
  let rest := t.drop whole.length
  let (places, rest) : Text × Text :=
    match rest with
    | '.' :: more => (more.takeWhile Char.isDigit, more.dropWhile Char.isDigit)
    | _ => ([], rest)
  if whole.isEmpty && places.isEmpty then none
  else (exponent? rest).map fun power ↦
    .ofDecimal negative (digitsValue (whole ++ places)) (power - places.length)

/-- The number that a text without underscores writes. -/
def plainNumber? (t : Text) : Option Binary64 :=
  let (negative, body) := sign t
  let word := String.ofList (body.map Char.toLower)
  if word = "nan" then some .nan
  else if word = "inf" ∨ word = "infinity" then some (.infinite negative)
  else decimal? negative body

/-- The number that a text writes, with blanks around it or single underscores in it. -/
def number? (t : Text) : Option Binary64 :=
  (plainNumber? (strip t)).or ((dropUnderscores? t).bind plainNumber?)

/-- A number.  An integer that is too large for one is taken for none. -/
def float : Data → Except Fault Binary64
  | .float x => .ok x
  | .int n =>
    match Binary64.ofInt n with
    | .infinite _ => .error .floatType
    | x => .ok x
  | .bool b => .ok (.ofInt (if b then 1 else 0))
  | .text t =>
    match number? t with
    | some x => .ok x
    | none => .error .floatParsing
  | _ => .error .floatType

/-- A number from zero to one. -/
def share (data : Data) : Except Fault Binary64 := do
  let x ← float data
  if !x.atMostOne then throw .tooLarge
  if !x.atLeastZero then throw .tooSmall
  return x

/-! ## Texts -/

/-- A text. -/
def text : Data → Except Fault Text
  | .text t => .ok t
  | _ => .error .stringType

/-- A text, without the blanks around it. -/
def trimmed (data : Data) : Except Fault Text := (text data).map Text.trim

/-- A text, or nothing. -/
def textOrNull : Data → Except Fault (Option Text)
  | .null => .ok none
  | data => (text data).map some

/-! ## Dates -/

/-- The ordinal of the first of January 1970. -/
def epoch : Int := (⟨1970, 1, 1⟩ : Date).ordinal

/-- The date at which a count of seconds since 1970 stands at midnight, `micros` millionths of a
second later.  A large count is one of milliseconds.  Years before 1600 are not counted that way. -/
def timestamp (count : Int) (micros : Nat) : Except Fault Date :=
  let perDay : Int := 86400000000
  let elapsed := count * (if count.natAbs ≤ 20000000000 then 1000000 else 1000) + micros
  match Date.ofOrdinal? (epoch + elapsed / perDay).toNat with
  | some d =>
    if d.year < 1600 then .error .dateParsing
    else if elapsed % perDay = 0 then .ok d
    else .error .dateInexact
  | none => .error .dateParsing

/-- The date of a count that is a number with a point.  Its fraction counts in millionths. -/
def timestampOf (x : Binary64) : Except Fault Date :=
  match x.floor? with
  | some count => timestamp count x.millionths
  | none => .error .dateParsing

/-- The date of a count that is written as text: a sign if need be, digits, and perhaps a point
with more digits or none. -/
def timestampText (t : Text) : Except Fault Date :=
  let (negative, body) := sign t
  let whole := leadingDigits body
  if whole.isEmpty then .error .dateParsing
  else match body.drop whole.length with
    | [] => timestamp (signed negative (digitsValue whole)) 0
    | '.' :: places =>
      if places.all Char.isDigit then
        timestampOf (.ofDecimal negative (digitsValue (whole ++ places)) (-places.length))
      else .error .dateParsing
    | _ => .error .dateParsing

/-- The date that a text writes, alone or with midnight as the time of day. -/
def dateText (t : Text) : Except Fault Date :=
  match Date.atStart? t, t.drop 10 with
  | some d, [] => .ok d
  | some d, separator :: time =>
    if ['T', 't', ' ', '_'].contains separator then
      match Date.midnight? time with
      | some true => .ok d
      | some false => .error .dateInexact
      | none => .error .dateParsing
    else .error .dateParsing
  | none, _ => timestampText t

/-- A date, or nothing.  An integer that is too large for a number with a point is taken for no
date at all. -/
def dateOrNull : Data → Except Fault (Option Date)
  | .null => .ok none
  | .text t => (dateText t).map some
  | .int n =>
    match Binary64.ofInt n with
    | .infinite _ => .error .dateType
    | _ => (timestamp n 0).map some
  | .float x => (timestampOf x).map some
  | _ => .error .dateType

end Reading
end TemplateAssist
