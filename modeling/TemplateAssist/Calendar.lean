import TemplateAssist.Number.Digits

/-!
# Dates

Dates of the Gregorian calendar from year 1 to year 9999, and the number of days between them.
`Date.ordinal` counts the days from the first of January of year 1, which has the ordinal 1.
-/

set_option autoImplicit false

namespace TemplateAssist

/-- A date. -/
structure Date where
  year : Nat
  month : Nat
  day : Nat
  deriving DecidableEq, Repr

namespace Date

/-- Whether a year has 366 days. -/
def isLeapYear (year : Nat) : Bool := year % 4 == 0 && (year % 100 != 0 || year % 400 == 0)

/-- The number of days of a month. -/
def daysInMonth (year month : Nat) : Nat :=
  if month = 2 then if isLeapYear year then 29 else 28
  else if month = 4 ∨ month = 6 ∨ month = 9 ∨ month = 11 then 30
  else 31

/-- The date, if there is such a one. -/
def ofParts? (year month day : Nat) : Option Date :=
  if 1 ≤ year ∧ year ≤ 9999 ∧ 1 ≤ month ∧ month ≤ 12 ∧ 1 ≤ day ∧ day ≤ daysInMonth year month then
    some ⟨year, month, day⟩
  else none

/-- The number of days in the years before a year. -/
def daysBeforeYear (year : Nat) : Nat :=
  let y := year - 1
  y * 365 + y / 4 - y / 100 + y / 400

/-- The number of days in the months of a year before a month. -/
def daysBeforeMonth (year month : Nat) : Nat :=
  (List.range (month - 1)).foldl (fun n k ↦ n + daysInMonth year (k + 1)) 0

/-- The number of days up to the date, the date included. -/
def ordinal (d : Date) : Nat := daysBeforeYear d.year + daysBeforeMonth d.year d.month + d.day

/-- The month and the day in it with `rest` days of the year before that day, searching on from a
month. -/
def monthAndDay (year : Nat) : Nat → Nat → Nat → Nat × Nat
  | 0, month, rest => (month, rest + 1)
  | fuel + 1, month, rest =>
    if rest < daysInMonth year month then (month, rest + 1)
    else monthAndDay year fuel (month + 1) (rest - daysInMonth year month)

/-- The date with an ordinal. -/
def ofOrdinal? (n : Nat) : Option Date :=
  if n = 0 then none
  else
    let guess := (n - 1) * 400 / 146097 + 1
    let year := if n ≤ daysBeforeYear guess then guess - 1
      else if daysBeforeYear (guess + 1) < n then guess + 1 else guess
    let (month, day) := monthAndDay year 11 1 (n - 1 - daysBeforeYear year)
    ofParts? year month day

/-- The date as year, month and day joined by hyphens. -/
def toText (d : Date) : Text :=
  paddedDigits 10 4 d.year ++ '-' :: paddedDigits 10 2 d.month ++ '-' :: paddedDigits 10 2 d.day

end Date

/-! ## Reading dates -/

namespace Date

/-- The value of a text of exactly `width` ASCII digits. -/
def number? (width : Nat) (t : Text) : Option Nat :=
  if t.length = width ∧ t.all Char.isDigit then some (digitsValue t) else none

/-- The date at the start of a text, year, month and day joined by hyphens. -/
def atStart? (t : Text) : Option Date :=
  if t[4]? = some '-' ∧ t[7]? = some '-' then do
    ofParts? (← number? 4 (t.take 4)) (← number? 2 (t.slice 5 7)) (← number? 2 (t.slice 8 10))
  else none

/-- Whether a text is an offset from universal time: the letter Z, or a sign with hours and
minutes, between which a colon may stand.  The sign may be a hyphen or the true minus. -/
def isZone : Text → Bool
  | ['Z'] => true
  | ['z'] => true
  | sign :: rest =>
    ['+', '-', '\u2212'].contains sign &&
      match number? 2 (rest.take 2),
        number? 2 (if rest[2]? = some ':' then rest.drop 3 else rest.drop 2) with
      | some hours, some minutes => hours < 24 && minutes < 60
      | _, _ => false
  | [] => true

/-- The fraction of a second at the start of a text, if there is one, and the text after it.  A
point or a comma and at least one digit make it. -/
def fraction? : Text → Option (Text × Text)
  | [] => some ([], [])
  | c :: rest =>
    if c = '.' ∨ c = ',' then
      let places := leadingDigits rest
      if places.isEmpty then none else some (places, rest.drop places.length)
    else some ([], c :: rest)

/-- The seconds at the start of a text, their fraction and the text after them.  There are none if
the text does not start with a colon. -/
def seconds? : Text → Option (Nat × Text × Text)
  | ':' :: rest => do
    let seconds ← number? 2 (rest.take 2)
    if 60 ≤ seconds then none
    let (places, rest) ← fraction? (rest.drop 2)
    return (seconds, places, rest)
  | t => some (0, [], t)

/-- Whether the time of day that a text gives is midnight; `none` if it gives no time.  Hours and
minutes are needed; seconds, perhaps with a fraction, and an offset from universal time may follow.
Of the fraction, six places count. -/
def midnight? (t : Text) : Option Bool := do
  let hours ← number? 2 (t.take 2)
  let minutes ← number? 2 (t.slice 3 5)
  if t[2]? ≠ some ':' ∨ 24 ≤ hours ∨ 60 ≤ minutes then none
  let (seconds, places, rest) ← seconds? (t.drop 5)
  if !isZone rest then none
  return hours = 0 && minutes = 0 && seconds = 0 && (places.take 6).all (· == '0')

end Date

end TemplateAssist
