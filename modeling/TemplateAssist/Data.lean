import TemplateAssist.Number.Binary64
import TemplateAssist.Number.Limit

/-!
# Data

The values that files and forms hold: what the JSON and TOML readers give, and what settings and
snippet fields are validated from.
-/

set_option autoImplicit false

namespace TemplateAssist

/-- A point in time of some precision.  Nothing here depends on which point it is. -/
inductive Moment where
  | dateTime
  | date
  | time
  deriving DecidableEq, Repr

/-- A value of some data format. -/
inductive Data where
  | null
  | bool (b : Bool)
  | int (n : Int)
  | float (x : Binary64)
  | text (s : Text)
  | moment (m : Moment)
  | list (items : List Data)
  | table (fields : List (Text × Data))
  deriving Repr

/-- Why a text cannot be read as data of some format. -/
inductive DataFault where
  /-- It does not have the form that the format asks for. -/
  | malformed
  /-- It has an integer with too many digits. -/
  | longInteger (cause : LongInteger)
  deriving DecidableEq, Repr

namespace DataFault

/-- What was read, if anything, and a fault in the form otherwise. -/
def orMalformed {α : Type} (read : Option α) : Except DataFault α :=
  match read with
  | some a => .ok a
  | none => .error .malformed

/-- The integer that decimal digits after a sign write. -/
def integer (negative : Bool) (digits : Text) : Except DataFault Data := do
  (LongInteger.checkDigits digits).mapError longInteger
  return .int (signed negative (digitsValue digits))

end DataFault

/-- Named values, in order. -/
abbrev Fields := List (Text × Data)

namespace Fields

/-- The value of a field. -/
def get? (fields : Fields) (name : Text) : Option Data := fields.lookup name

end Fields

/-- A field set to a value: in its old position if there is one of its name already, and at the
end otherwise. -/
def setField {α : Type} (fields : List (Text × α)) (name : Text) (value : α) : List (Text × α) :=
  match fields with
  | [] => [(name, value)]
  | (other, old) :: rest =>
    if other = name then (name, value) :: rest else (other, old) :: setField rest name value

/-- The fields given by pairs in which a name may be repeated: the last value counts, in the first
position. -/
def fieldsOfPairs {α : Type} (pairs : List (Text × α)) : List (Text × α) :=
  pairs.foldl (fun fields (name, value) ↦ setField fields name value) []

end TemplateAssist
