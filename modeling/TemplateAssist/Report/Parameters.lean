import TemplateAssist.File
import TemplateAssist.Number.Limit
import TemplateAssist.Text.Blank
import TemplateAssist.Text.WordChar

/-!
# Parameters of a handler

A tag of styled text can name a handler with parameters, as in `[@press=open(1, 'a')]`.  They have
to be literals: numbers, texts, the named constants, and tuples, sets and tables of those, with
nothing to be computed but the sign of a number and the sum of its two parts.

`Parameters.areLiteral` reads the tokens of such a text and keeps an open bracket for each level of
nesting, so that it is one walk over the tokens.
-/

set_option autoImplicit false

namespace TemplateAssist
namespace Parameters

/-! ## Values -/

/-- What matters of a value: what can be done with it. -/
inductive Shape where
  /-- A number without a sign. -/
  | real
  /-- An imaginary number without a sign. -/
  | imaginary
  /-- A real number after a sign. -/
  | signed
  | text
  | bytes
  /-- Another value, which can be a key or not. -/
  | other (isKey : Bool)
  deriving DecidableEq, Repr

/-- Whether a value can be a key of a table or a member of a set. -/
def Shape.isKey : Shape → Bool
  | other isKey => isKey
  | _ => true

/-- The tokens of a literal. -/
inductive Token where
  | value (shape : Shape)
  /-- The name that, called without arguments, gives the empty set. -/
  | set
  | plus
  | minus
  | comma
  | colon
  | openRound
  | closeRound
  | openCurly
  | closeCurly
  | newline
  deriving DecidableEq, Repr

/-! ## Numbers -/

/-- The length of a run of digits at the start of a text, with single underscores between them. -/
def digitRun (base : Nat) : Text → Nat
  | [] => 0
  | c :: rest =>
    if isDigitIn base c then 1 + digitRun base rest
    else
      match rest with
      | d :: _ => if c = '_' && isDigitIn base d then 1 + digitRun base rest else 0
      | [] => 0

/-- The length of a run of decimal digits, which starts with a digit. -/
def decimalRun (t : Text) : Nat :=
  if t.head?.any Char.isDigit then digitRun 10 t else 0

/-- The length of the exponent at the start of a text. -/
def exponentLength : Text → Nat
  | c :: rest =>
    if c = 'e' || c = 'E' then
      let sign := if rest.head? = some '+' || rest.head? = some '-' then 1 else 0
      let digits := decimalRun (rest.drop sign)
      if digits = 0 then 0 else 1 + sign + digits
    else 0
  | [] => 0

/-- Whether the digits of an integer are written as they may be: not too many, and none after a
zero unless all are zero. -/
def isInteger (digits : Text) : Bool :=
  let digits := digits.filter (· ≠ '_')
  digits.length ≤ maxIntegerDigits && (digits.head? != some '0' || digits.all (· == '0'))

/-- The length and the shape of the decimal number at the start of a text. -/
def decimal? (t : Text) : Option (Nat × Shape) :=
  let whole := decimalRun t
  let point := if t[whole]? = some '.' then 1 + decimalRun (t.drop (whole + 1)) else 0
  let mantissa := whole + point
  let exponent := exponentLength (t.drop mantissa)
  let size := mantissa + exponent
  if mantissa = 0 || (whole = 0 && point = 1) then none
  else if t[size]? = some 'j' || t[size]? = some 'J' then some (size + 1, .imaginary)
  else if point = 0 && exponent = 0 && !isInteger (t.take whole) then none
  else some (size, .real)

/-- The base that the letter after a zero gives. -/
def base? : Char → Option Nat
  | 'x' | 'X' => some 16
  | 'o' | 'O' => some 8
  | 'b' | 'B' => some 2
  | _ => none

/-- The length and the shape of the number at the start of a text. -/
def number? (t : Text) : Option (Nat × Shape) := do
  let (size, shape) ← match t with
    | '0' :: letter :: rest =>
      match base? letter with
      | some base =>
        let digits := digitRun base rest
        if digits = 0 then none else some (2 + digits, Shape.real)
      | none => decimal? t
    | _ => decimal? t
  if t[size]?.any fun c ↦ isWordChar c || 128 ≤ c.toNat then none else return (size, shape)

/-! ## Texts -/

/-- Whether an escape is well formed; `letter` follows the backslash and `t` follows the letter. -/
def escapes (isBytes : Bool) (letter : Char) (t : Text) : Bool :=
  let hex (n : Nat) : Bool := n ≤ t.length && (t.take n).all (isDigitIn 16)
  match letter with
  | 'x' => hex 2
  | 'u' => isBytes || hex 4
  | 'U' => isBytes || (hex 8 && digitsValueIn 16 (t.take 8) ≤ 0x10FFFF)
  | 'N' =>
    let name := (t.drop 1).takeWhile fun c ↦ c.isAlphanum || c = ' ' || c = '-'
    isBytes || (t.head? == some '\x7b' && !name.isEmpty && t[name.length + 1]? == some '\x7d')
  | _ => true

/-- The number of characters up to the end of a quoted text, the closing quotes included. -/
def quotedLength? (isRaw isBytes : Bool) (quotes : Text) : Text → Option Nat
  | [] => none
  | c :: rest =>
    if quotes.isPrefixOf (c :: rest) then some quotes.length
    else if isBytes && 128 ≤ c.toNat then none
    else if c = '\\' then
      match rest with
      | [] => none
      | letter :: rest =>
        if (isRaw || escapes isBytes letter rest) && !(isBytes && 128 ≤ letter.toNat) then
          (quotedLength? isRaw isBytes quotes rest).map (· + 2)
        else none
    else if c = '\n' && quotes.length = 1 then none
    else (quotedLength? isRaw isBytes quotes rest).map (· + 1)

/-- The letters that may stand before a quoted text. -/
def quoteLetters : List Text := ["", "r", "u", "b", "br", "rb"].map String.toList

/-- The length and the shape of the quoted text at the start of a text; `letters` stand before its
first quote. -/
def quoted? (letters t : Text) : Option (Nat × Shape) := do
  let quote ← t.head?
  let letters := letters.map Char.toLower
  guard (quoteLetters.contains letters)
  let triple := [quote, quote, quote]
  let quotes := if triple.isPrefixOf t then triple else [quote]
  let isBytes := letters.contains 'b'
  let size ← quotedLength? (letters.contains 'r') isBytes quotes (t.drop quotes.length)
  return (letters.length + quotes.length + size, if isBytes then .bytes else .text)

/-! ## Tokens -/

/-- The length and the token of the word or quoted text at the start of a text. -/
def word? (t : Text) : Option (Nat × Token) :=
  let letters := t.takeWhile Char.isAlpha
  let rest := t.drop letters.length
  if rest.head? = some '\'' || rest.head? = some '"' then
    (quoted? letters rest).map fun (size, shape) ↦ (size, .value shape)
  else
    let word := t.takeWhile fun c ↦ isWordChar c || 128 ≤ c.toNat
    match String.ofList word with
    | "True" | "False" | "None" => some (word.length, .value (.other true))
    | "set" => some (word.length, .set)
    | _ => none

/-- The greatest number of brackets that may be open. -/
def maxDepth : Nat := 200

/-- The length of the token at the start of a text, where `depth` brackets are open, the token, and
the number of brackets that are open after it.  Blanks and comments give no token. -/
def token? (depth : Nat) (t : Text) : Option (Nat × Option Token × Nat) :=
  let opening (token : Token) :=
    if depth < maxDepth then some (1, some token, depth + 1) else none
  match t with
  | [] => none
  | ' ' :: _ | '\t' :: _ | '\x0c' :: _ => some (1, none, depth)
  | '\\' :: '\n' :: _ => some (2, none, depth)
  | '\n' :: _ => some (1, if depth = 0 then some .newline else none, depth)
  | '#' :: rest => some (1 + (Text.upTo '\n' rest).length, none, depth)
  | '(' :: _ => opening .openRound
  | '\x7b' :: _ => opening .openCurly
  | ')' :: _ => some (1, some .closeRound, depth - 1)
  | '\x7d' :: _ => some (1, some .closeCurly, depth - 1)
  | ',' :: _ => some (1, some .comma, depth)
  | ':' :: _ => some (1, some .colon, depth)
  | '+' :: _ => some (1, some .plus, depth)
  | '-' :: _ => some (1, some .minus, depth)
  | '.' :: '.' :: '.' :: _ => some (3, some (.value (.other true)), depth)
  | c :: _ =>
    if c.isDigit || c = '.' then
      (number? t).map fun (size, shape) ↦ (size, some (.value shape), depth)
    else (word? t).map fun (size, token) ↦ (size, some token, depth)

/-- The tokens of the remaining text; its first `skip` characters belong to a token, and `depth`
brackets are open. -/
def tokensFrom (depth skip : Nat) : Text → Option (List Token)
  | [] => some []
  | c :: rest =>
    match skip with
    | n + 1 => tokensFrom depth n rest
    | 0 => do
      let (size, token, depth) ← token? depth (c :: rest)
      return token.toList ++ (← tokensFrom depth (size - 1) rest)

/-- The tokens with one for quoted texts that follow each other, and one for an empty set. -/
def join : List Token → List Token
  | [] => []
  | token :: rest =>
    match token, join rest with
    | .value .text, .value .text :: after => .value .text :: after
    | .value .bytes, .value .bytes :: after => .value .bytes :: after
    | .set, .openRound :: .closeRound :: after => .value (.other false) :: after
    | token, rest => token :: rest

/-! ## Literals -/

/-- What is open at a level of nesting. -/
inductive Bracket where
  | none
  | round
  | curly
  deriving DecidableEq, Repr

/-- Whether a token closes a bracket. -/
def Bracket.endsWith : Bracket → Token → Bool
  | round, .closeRound | curly, .closeCurly => true
  | _, _ => false

/-- What has been read of the value that comes next. -/
inductive Pending where
  | nothing
  | sign
  | whole (shape : Shape)
  /-- A real number and a sign after it. -/
  | sum
  deriving DecidableEq, Repr

/-- A level of nesting that is not closed. -/
structure Level where
  bracket : Bracket
  /-- The value that is being read. -/
  value : Pending := .nothing
  /-- Whether there was a comma. -/
  several : Bool := false
  /-- Whether all values so far can be keys. -/
  areKeys : Bool := true
  /-- In curly brackets, whether the values have keys; not known before the first one ends. -/
  hasKeys : Option Bool := none
  /-- Whether the key of the value that is being read was read. -/
  afterKey : Bool := false
  deriving DecidableEq, Repr

namespace Level

/-- The level after a complete value. -/
def put (l : Level) (shape : Shape) : Option Level :=
  match l.value, shape with
  | .nothing, _ => some { l with value := .whole shape }
  | .sign, .real => some { l with value := .whole .signed }
  | .sign, .imaginary => some { l with value := .whole (.other true) }
  | .sum, .imaginary => some { l with value := .whole (.other true) }
  | _, _ => none

/-- The level after a plus or minus sign. -/
def sign (l : Level) : Option Level :=
  match l.value with
  | .nothing => some { l with value := .sign }
  | .whole .real | .whole .signed => some { l with value := .sum }
  | _ => none

/-- The level after the end of a value. -/
def finish (l : Level) : Option Level :=
  match l.value with
  | .whole shape =>
    if l.hasKeys = some !l.afterKey then none
    else
      let areKeys := l.areKeys && (l.afterKey || shape.isKey)
      let hasKeys := if l.bracket = .curly then some l.afterKey else none
      some { l with value := .nothing, afterKey := false, areKeys, hasKeys }
  | _ => none

/-- The level after a comma. -/
def comma (l : Level) : Option Level := l.finish.map fun l ↦ { l with several := true }

/-- The level after a colon. -/
def colon (l : Level) : Option Level :=
  match l.bracket, l.value with
  | .curly, .whole shape =>
    if l.afterKey || l.hasKeys = some false || !shape.isKey then none
    else some { l with value := .nothing, afterKey := true }
  | _, _ => none

/-- The value that a level is when it is closed. -/
def close (l : Level) : Option Shape :=
  match l.bracket, l.value with
  | .curly, .nothing => if l.afterKey then none else collection l
  | .curly, _ => do collection (← l.finish)
  | .round, .nothing => some (.other l.areKeys)
  | .none, .nothing => if l.several then some (.other true) else none
  | _, .whole shape => if l.several then l.finish.map (.other ·.areKeys) else some shape
  | _, _ => none
where
  /-- The value of curly brackets after their last value. -/
  collection (l : Level) : Option Shape :=
    if l.areKeys then some (.other false) else none

end Level

/-- Whether the remaining tokens end all levels: the innermost one and those around it. -/
def closes (l : Level) (around : List Level) : List Token → Bool
  | [] => around.isEmpty && l.close.isSome
  | token :: rest =>
    match token with
    | .value shape => (l.put shape).any (closes · around rest)
    | .plus | .minus => l.sign.any (closes · around rest)
    | .comma => l.comma.any (closes · around rest)
    | .colon => l.colon.any (closes · around rest)
    | .openRound => closes { bracket := .round } (l :: around) rest
    | .openCurly => closes { bracket := .curly } (l :: around) rest
    | .closeRound | .closeCurly =>
      match around with
      | [] => false
      | outer :: around =>
        l.bracket.endsWith token
          && (l.close.bind outer.put).any (closes · around rest)
    | .set | .newline => false

/-- Whether a text is one literal. -/
def isLiteral (t : Text) : Bool :=
  let t := (unifyLineEnds t).dropWhile fun c ↦ c = ' ' || c = '\t'
  !t.contains '\x00' && (tokensFrom 0 0 t).any fun tokens ↦
    let isNewline (token : Token) : Bool := token = .newline
    closes { bracket := .none } []
      (join ((tokens.dropWhile isNewline).reverse.dropWhile isNewline).reverse)

/-! ## Handlers -/

/-- Whether the parameters of a handler are literals.  They are the brackets after its name, if the
text is a name with brackets, and else the whole text. -/
def areLiteral (t : Text) : Bool :=
  let t := t.trim
  let rest := t.dropWhile fun c ↦ isWordChar c || c = '.'
  if rest.isEmpty then true
  else if rest.head? = some '(' && rest.getLast? = some ')' && !rest.contains '\n' then
    isLiteral rest
  else isLiteral t

end Parameters
end TemplateAssist
