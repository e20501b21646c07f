import TemplateAssist.Number.Digits

/-!
# The length of integers

Integers in decimal notation are read and written up to a certain number of digits.
-/

set_option autoImplicit false

namespace TemplateAssist

/-- The greatest number of decimal digits with which an integer is read or written. -/
def maxIntegerDigits : Nat := 4300

/-- Why an integer has too many digits. -/
inductive LongInteger where
  /-- It was to be read, and has this number of digits. -/
  | reading (digits : Nat)
  /-- It was to be written. -/
  | writing
  deriving DecidableEq, Repr

namespace LongInteger

/-- The wording of the error. -/
def message : LongInteger → String
  | reading digits => start ++ ": value has " ++ toString digits ++ " digits" ++ advice
  | writing => start ++ advice
where
  /-- How the message starts. -/
  start : String :=
    "Exceeds the limit (" ++ toString maxIntegerDigits ++ " digits) for integer string conversion"
  /-- How the message ends. -/
  advice : String := "; use sys.set_int_max_str_digits() to increase the limit"

/-- Checks that digits are not too many to be read. -/
def checkDigits (digits : Text) : Except LongInteger Unit :=
  if digits.length ≤ maxIntegerDigits then .ok () else .error (.reading digits.length)

/-- The decimal digits of a natural number, if there are not too many of them. -/
def write (n : Nat) : Except LongInteger Text :=
  let digits := Nat.toDigits 10 n
  if digits.length ≤ maxIntegerDigits then .ok digits else .error .writing

end LongInteger

end TemplateAssist
