import TemplateAssist.Number.Binary64

/-!
# The shortest decimal notation of a double-precision number

A number is written with the fewest significant digits that read back as the same number, and of
the decimals with that many digits, as the one nearest to it (the one with an even last digit, if
two are equally near).  For 1, 2, … 17 digits the two decimals next to the number are tried, in
exact arithmetic; seventeen digits always suffice.

`Notation` has the other decisions: the digits are written positionally, with at least one digit
on each side of the point, if the first one stands for a power of ten from `10 ^ -4` to `10 ^ 15`,
and otherwise with an exponent of a sign and at least two digits.
-/

set_option autoImplicit false

namespace TemplateAssist
namespace Shortest

/-- A decimal `0.d₁d₂… * 10 ^ point`. -/
structure Decimal where
  digits : Nat
  point : Int
  deriving DecidableEq, Repr

/-- A positive number with the ends of the interval of reals that round to it, all three in units
of `2 ^ exponent`.  The ends belong to the interval if `closed`. -/
structure Target where
  low : Nat
  value : Nat
  high : Nat
  exponent : Int
  closed : Bool

/-- The target for a finite positive number.  Below a power of two the numbers are twice as dense,
so the interval reaches only half as far down. -/
def Target.of (mantissa : Nat) (exponent : Int) : Target where
  low := 4 * mantissa -
    (if mantissa = Binary64.leastFull ∧ Binary64.minExponent < exponent then 1 else 2)
  value := 4 * mantissa
  high := 4 * mantissa + 2
  exponent := exponent - 2
  closed := mantissa % 2 = 0

/-- Whether the decimal `n * 10 ^ step` lies in the interval. -/
def Target.holds (t : Target) (n : Nat) (step : Int) : Bool :=
  let (num, den) := unscale 10 n 1 (-step)
  let (num, den) := unscale 2 num den t.exponent
  if t.closed then t.low * den ≤ num && num ≤ t.high * den
  else t.low * den < num && num < t.high * den

/-- The number of digits before the point of the value `num / den`, by searching up or down from a
guess. -/
def pointOf (num den : Nat) : Nat → Int → Int
  | 0, guess => guess
  | fuel + 1, guess =>
    let (n, d) := unscale 10 num den guess
    if d ≤ n then pointOf num den fuel (guess + 1)
    else if 10 * n < d then pointOf num den fuel (guess - 1)
    else guess

/-- The decimal with `count` digits that is nearest to the target, if one of the two next to it
lies in the interval. -/
def Target.withDigits? (t : Target) (point : Int) (count : Nat) : Option Decimal :=
  let step := point - count
  let (num, den) := unscale 2 t.value 1 (-t.exponent)
  let (num, den) := unscale 10 num den step
  let below := num / den
  let above := below + 1
  let found (n : Nat) : Option Decimal := some ⟨n, point⟩
  match t.holds below step, t.holds above step with
  | true, true => found (roundDiv num den)
  | true, false => found below
  | false, true => found above
  | false, false => none

/-- The significant digits of the shortest decimal for a finite positive number, and the number of
them that stand before the point. -/
def digits (mantissa : Nat) (exponent : Int) : List Char × Int :=
  let t := Target.of mantissa exponent
  let (num, den) := unscale 2 t.value 1 (-t.exponent)
  let point := pointOf num den 700 0
  match (List.range 17).findSome? fun k ↦
      (t.withDigits? point (k + 1)).map fun d ↦ (k + 1, d) with
  | none => ([], 0)
  | some (count, d) =>
    let written := Nat.toDigits 10 d.digits
    let significant := (written.reverse.dropWhile (· == '0')).reverse
    (significant, point + (written.length - count))

end Shortest

/-! ## Notation -/

namespace Binary64

/-- The digits with a point after the first `point` of them, filled up with zeros. -/
def positional (digits : List Char) (point : Int) : List Char :=
  if point ≤ 0 then ['0', '.'] ++ List.replicate (-point).toNat '0' ++ digits
  else
    let whole := digits.take point.toNat
    let fraction := digits.drop point.toNat
    whole ++ List.replicate (point.toNat - digits.length) '0' ++ ['.']
      ++ (if fraction.isEmpty then ['0'] else fraction)

/-- The digits with a point after the first, and the power of ten. -/
def scientific (digits : List Char) (point : Int) : List Char :=
  let power := point - 1
  let size := Nat.toDigits 10 power.natAbs
  digits.take 1 ++ (if digits.length ≤ 1 then [] else '.' :: digits.drop 1)
    ++ ['e', if power < 0 then '-' else '+']
    ++ List.replicate (2 - size.length) '0' ++ size

/-- The shortest notation of a number. -/
def toText : Binary64 → List Char
  | nan => ['n', 'a', 'n']
  | infinite negative => (if negative then ['-'] else []) ++ ['i', 'n', 'f']
  | finite negative mantissa exponent =>
    let sign := if negative then ['-'] else []
    if mantissa = 0 then sign ++ ['0', '.', '0']
    else
      let (digits, point) := Shortest.digits mantissa exponent
      sign ++ if -4 < point ∧ point ≤ 16 then positional digits point else scientific digits point

end Binary64

end TemplateAssist
