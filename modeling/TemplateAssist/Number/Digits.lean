import TemplateAssist.Text.Basic

/-!
# Digits

The numbers that runs of ASCII digits write.
-/

set_option autoImplicit false

namespace TemplateAssist

/-- The value of a digit of a base up to sixteen, where letters in either case go on after 9. -/
def digitIn? (base : Nat) (c : Char) : Option Nat :=
  let value? :=
    if '0' ≤ c ∧ c ≤ '9' then some (c.toNat - '0'.toNat)
    else if 'a' ≤ c ∧ c ≤ 'f' then some (c.toNat - 'a'.toNat + 10)
    else if 'A' ≤ c ∧ c ≤ 'F' then some (c.toNat - 'A'.toNat + 10)
    else none
  value?.filter (· < base)

/-- Whether a character is a digit of a base up to sixteen. -/
def isDigitIn (base : Nat) (c : Char) : Bool := (digitIn? base c).isSome

/-- The number that digits of a base write. -/
def digitsValueIn (base : Nat) (t : Text) : Nat :=
  t.foldl (fun n c ↦ base * n + (digitIn? base c).getD 0) 0

/-- The number that decimal digits write. -/
def digitsValue (t : Text) : Nat := digitsValueIn 10 t

/-- The decimal digits at the start of a text. -/
def leadingDigits (t : Text) : Text := t.takeWhile Char.isDigit

/-- Whether a text is one or more decimal digits. -/
def isDigits (t : Text) : Bool := !t.isEmpty && t.all Char.isDigit

/-- A natural number with a sign. -/
def signed (negative : Bool) (n : Nat) : Int := if negative then -n else n

/-- A number in the digits of a base, at least `width` of them. -/
def paddedDigits (base width n : Nat) : Text :=
  let digits := Nat.toDigits base n
  List.replicate (width - digits.length) '0' ++ digits

end TemplateAssist
