import TemplateAssist.Data
import TemplateAssist.Number.Shortest
import TemplateAssist.Text.Quoted

/-!
# Data in messages

How a value is shown where a message names it: texts in quotes, lists and tables in brackets and
braces, and the words `None`, `True` and `False`.
-/

set_option autoImplicit false

namespace TemplateAssist
namespace Data

/-- Texts with a comma between them. -/
def commaJoined : List Text → Text
  | [] => []
  | [t] => t
  | t :: rest => t ++ [',', ' '] ++ commaJoined rest

mutual

/-- The value as it is shown in a message. -/
def literal : Data → Text
  | null => "None".toList
  | bool b => (if b then "True" else "False").toList
  | int n => (toString n).toList
  | float x => x.toText
  | text s => Text.quoted s
  | moment .dateTime => "datetime".toList
  | moment .date => "date".toList
  | moment .time => "time".toList
  | list items => '[' :: commaJoined (literals items) ++ [']']
  | table fields => '{' :: commaJoined (fieldLiterals fields) ++ ['}']

/-- The items of a list as they are shown. -/
def literals : List Data → List Text
  | [] => []
  | item :: items => literal item :: literals items

/-- The fields of a table as they are shown. -/
def fieldLiterals : List (Text × Data) → List Text
  | [] => []
  | (name, value) :: fields =>
    (Text.quoted name ++ [':', ' '] ++ literal value) :: fieldLiterals fields

end

end Data

end TemplateAssist
