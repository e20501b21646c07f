import TemplateAssist.Form.Reading
import TemplateAssist.Number.Shortest

/-!
# What a snippet is filled with

Every field has a default.  All texts but the body are trimmed, and a field that is not one of
these is refused.
-/

set_option autoImplicit false

namespace TemplateAssist

/-- The fields of a snippet. -/
structure SnippetFields where
  symbol : Text := "btc".toList
  field : Text := "full".toList
  item : Text := "item".toList
  collection : Text := "items".toList
  /-- The body of a loop or a condition. -/
  content : Option Text := none
  condition : Text := "condition".toList
  path : Text := "variable".toList
  value : Text := "value".toList
  filter : Text := "upper".toList
  /-- A number from zero to one. -/
  similarityThreshold : Binary64 := .ofDecimal false 8 (-1)
  limit : Nat := 5
  startDate : Option Date := none
  endDate : Option Date := none
  deriving DecidableEq, Repr

namespace SnippetFields

/-- The names of the fields in a form. -/
def names : List String :=
  ["symbol", "field", "item", "collection", "content", "condition", "path", "variable", "filter",
    "similarity_threshold", "limit", "start_date", "end_date"]

/-- The fields that a form gives. -/
def ofFields (fields : Fields) : Checked SnippetFields :=
  let defaults : SnippetFields := {}
  let text (name : String) (default : Text) : Checked Text :=
    fields.read name default Reading.trimmed
  (Checked.of (fun symbol field item collection content condition path value filter threshold limit
      startDate endDate () ↦ SnippetFields.mk symbol field item collection content condition path
        value filter threshold limit startDate endDate))
    |>.apply (text "symbol" defaults.symbol)
    |>.apply (text "field" defaults.field)
    |>.apply (text "item" defaults.item)
    |>.apply (text "collection" defaults.collection)
    |>.apply (fields.read "content" defaults.content Reading.textOrNull)
    |>.apply (text "condition" defaults.condition)
    |>.apply (text "path" defaults.path)
    |>.apply (text "variable" defaults.value)
    |>.apply (text "filter" defaults.filter)
    |>.apply (fields.read "similarity_threshold" defaults.similarityThreshold Reading.share)
    |>.apply (fields.read "limit" defaults.limit (Reading.natFrom 1))
    |>.apply (fields.read "start_date" defaults.startDate Reading.dateOrNull)
    |>.apply (fields.read "end_date" defaults.endDate Reading.dateOrNull)
    |>.apply (fields.refuseOthers names)

/-- The number of days from the start date to the end date, or to today if there is no end date,
both ends included; without a start date, a week. -/
def lookbackDays (f : SnippetFields) (today : Date) : Int :=
  match f.startDate with
  | none => 7
  | some start => ((f.endDate.getD today).ordinal : Int) - start.ordinal + 1

end SnippetFields

end TemplateAssist
