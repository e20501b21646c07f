import TemplateAssist.Data

/-!
# Checked forms

A form is a set of named values that are read as values of certain types.  Reading it does not
stop at the first bad field: `Checked.apply` goes on and collects an `Issue` for every one.
-/

set_option autoImplicit false

namespace TemplateAssist

/-- What is wrong with the value of a field. -/
inductive Fault where
  /-- Text that is no integer. -/
  | intParsing
  /-- A number with a fraction where an integer is needed. -/
  | intFromFloat
  /-- A number without a fraction that does not fit into 64 bits, or text with too many digits. -/
  | intSize
  /-- A value that cannot be taken for an integer. -/
  | intType
  /-- A number that is not finite. -/
  | finiteNumber
  /-- Text or an integer that is no truth value. -/
  | boolParsing
  /-- A value that cannot be taken for a truth value. -/
  | boolType
  /-- Text that is no number. -/
  | floatParsing
  /-- A value that cannot be taken for a number. -/
  | floatType
  /-- A value that is no text. -/
  | stringType
  /-- A value that cannot be taken for a date. -/
  | dateType
  /-- Text that is no date. -/
  | dateParsing
  /-- A date with a time of day that is not midnight. -/
  | dateInexact
  /-- A number below the least one allowed. -/
  | tooSmall
  /-- A number above the greatest one allowed. -/
  | tooLarge
  /-- A field that the form does not have. -/
  | unknownField
  deriving DecidableEq, Repr

/-- The code of a fault. -/
def Fault.code : Fault → String
  | intParsing => "int_parsing"
  | intFromFloat => "int_from_float"
  | intSize => "int_parsing_size"
  | intType => "int_type"
  | finiteNumber => "finite_number"
  | boolParsing => "bool_parsing"
  | boolType => "bool_type"
  | floatParsing => "float_parsing"
  | floatType => "float_type"
  | stringType => "string_type"
  | dateType => "date_type"
  | dateParsing => "date_from_datetime_parsing"
  | dateInexact => "date_from_datetime_inexact"
  | tooSmall => "greater_than_equal"
  | tooLarge => "less_than_equal"
  | unknownField => "extra_forbidden"

/-- A bad field. -/
structure Issue where
  field : Text
  fault : Fault
  deriving DecidableEq, Repr

/-- The field and the code of the fault. -/
def Issue.describe (i : Issue) : String := String.ofList i.field ++ ": " ++ i.fault.code

/-- The headline for the issues of a form. -/
def issueHeadline (form : String) (issues : List Issue) : String :=
  toString issues.length
    ++ (if issues.length = 1 then " validation error" else " validation errors")
    ++ " for " ++ form

/-- A value read from a form, or the issues with it. -/
abbrev Checked (α : Type) := Except (List Issue) α

namespace Checked

/-- A value without issues. -/
def of {α : Type} (a : α) : Checked α := .ok a

/-- A function of checked values applied to one more: the issues of both are kept. -/
def apply {α β : Type} (f : Checked (α → β)) (x : Checked α) : Checked β :=
  match f, x with
  | .ok f, .ok a => .ok (f a)
  | .ok _, .error issues => .error issues
  | .error issues, .ok _ => .error issues
  | .error first, .error second => .error (first ++ second)

end Checked

/-- The field of a form with a name, read by `read`; `default` if the form does not have it. -/
def Fields.read {α : Type} (fields : Fields) (name : String) (default : α)
    (read : Data → Except Fault α) : Checked α :=
  match fields.get? name.toList with
  | none => .ok default
  | some data =>
    match read data with
    | .ok a => .ok a
    | .error fault => .error [⟨name.toList, fault⟩]

/-- Issues with the fields that a form with these names does not have. -/
def Fields.refuseOthers (fields : Fields) (names : List String) : Checked Unit :=
  match fields.filter fun field ↦ !names.any (·.toList = field.1) with
  | [] => .ok ()
  | others => .error (others.map fun field ↦ ⟨field.1, .unknownField⟩)

end TemplateAssist
