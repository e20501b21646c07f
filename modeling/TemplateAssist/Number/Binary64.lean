/-!
# Double-precision numbers

The numbers of the 64-bit floating-point format, as exact values: a finite one is a sign and
`mantissa * 2 ^ exponent`.  Only reading them from decimal notation and comparing them is needed,
and both are done on natural numbers.

`Binary64.ofDecimal` rounds to the nearest number of the format, and to the one with the even
mantissa if two are equally near.
-/

set_option autoImplicit false

namespace TemplateAssist

/-- A number of the 64-bit floating-point format. -/
inductive Binary64 where
  /-- The number `mantissa * 2 ^ exponent`, with a sign.  The mantissa has 53 bits, or fewer if the
  exponent is the least one, -1074. -/
  | finite (negative : Bool) (mantissa : Nat) (exponent : Int)
  | infinite (negative : Bool)
  | nan
  deriving DecidableEq, Repr

/-- The quotient rounded to the nearest natural number, to the even one if two are equally near. -/
def roundDiv (num den : Nat) : Nat :=
  let q := num / den
  let r := num % den
  if den < 2 * r ∨ (2 * r = den ∧ q % 2 = 1) then q + 1 else q

/-- The quotient of `num / den` by `base ^ exponent`, as a numerator and a denominator. -/
def unscale (base num den : Nat) (exponent : Int) : Nat × Nat :=
  if exponent < 0 then (num * base.pow (-exponent).toNat, den)
  else (num, den * base.pow exponent.toNat)

namespace Binary64

/-- The least exponent of the format. -/
def minExponent : Int := -1074

/-- The greatest exponent of the format. -/
def maxExponent : Int := 971

/-- The least mantissa of 53 bits. -/
def leastFull : Nat := 0x10000000000000

/-- The number zero. -/
def zero (negative : Bool) : Binary64 := finite negative 0 minExponent

/-- The exponent for which `num / den` has a mantissa of 53 bits, or the least one. -/
def exponentFor (num den : Nat) : Int :=
  let guess : Int := num.log2 - den.log2 - 52
  let (n, d) := unscale 2 num den guess
  max minExponent (if n < leastFull * d then guess - 1 else guess)

/-- The number nearest to the positive fraction `num / den`. -/
def ofFraction (negative : Bool) (num den : Nat) : Binary64 :=
  if num = 0 then zero negative
  else
    let exponent := exponentFor num den
    let (n, d) := unscale 2 num den exponent
    let mantissa := roundDiv n d
    let (mantissa, exponent) :=
      if mantissa = 2 * leastFull then (leastFull, exponent + 1) else (mantissa, exponent)
    if maxExponent < exponent then infinite negative else finite negative mantissa exponent

/-- The number nearest to `digits * 10 ^ exponent`.  A magnitude far outside the format is not
computed: it is infinite, or zero. -/
def ofDecimal (negative : Bool) (digits : Nat) (exponent : Int) : Binary64 :=
  let magnitude := exponent + (Nat.toDigits 10 digits).length
  if digits = 0 ∨ magnitude < -400 then zero negative
  else if 400 < magnitude then infinite negative
  else
    let (num, den) := unscale 10 digits 1 (-exponent)
    ofFraction negative num den

/-- The number nearest to an integer. -/
def ofInt (n : Int) : Binary64 := ofDecimal (n < 0) n.natAbs 0

/-- The integer that the number is, if it is one. -/
def toInt? : Binary64 → Option Int
  | finite negative mantissa exponent =>
    let (num, den) := unscale 2 mantissa 1 (-exponent)
    if num % den = 0 then
      let n : Int := (num / den : Nat)
      some (if negative then -n else n)
    else none
  | _ => none

/-- The greatest integer that is at most the number, if it is finite. -/
def floor? : Binary64 → Option Int
  | finite negative mantissa exponent =>
    let (num, den) := unscale 2 mantissa 1 (-exponent)
    let n : Int := num
    some ((if negative then -n else n) / den)
  | _ => none

/-- The millionths nearest to the fraction of the number's magnitude, the greater ones if two are
equally near.  It can be a million of them. -/
def millionths : Binary64 → Nat
  | finite _ mantissa exponent =>
    let (num, den) := unscale 2 mantissa 1 (-exponent)
    (2000000 * (num % den) + den) / (2 * den)
  | _ => 0

/-- Whether the number is at most one. -/
def atMostOne : Binary64 → Bool
  | finite negative mantissa exponent =>
    let (num, den) := unscale 2 mantissa 1 (-exponent)
    negative || num ≤ den
  | infinite negative => negative
  | nan => false

/-- Whether the number is at least zero; the negative zero is. -/
def atLeastZero : Binary64 → Bool
  | finite negative mantissa _ => !negative || mantissa == 0
  | infinite negative => !negative
  | nan => false

end Binary64

end TemplateAssist
