import TemplateAssist.File
import TemplateAssist.Settings.Form
import TemplateAssist.Toml.Reader

/-!
# Settings from files

Settings stand in a table of their own among the tables of all tools in a TOML file.  If the file
or the table is missing, the defaults hold.
-/

set_option autoImplicit false

namespace TemplateAssist

/-- The name of the file in a directory that has its settings. -/
def settingsFileName : Text := "pyproject.toml".toList

/-- Why a file gives no settings. -/
inductive SettingsError where
  | invalidEncoding
  /-- The file is no TOML. -/
  | invalidToml (path : Text)
  /-- An integer in the file has too many digits. -/
  | longInteger (cause : LongInteger)
  | nameTooLong (path : Text)
  /-- What should be the table of all tools is something else. -/
  | toolsNotATable (found : Data)
  /-- What should be the table of settings is something without parts. -/
  | settingsWithoutParts (found : Data)
  /-- What should be the table of settings has parts, but no names. -/
  | settingsWithoutNames (found : Data)
  /-- Some settings have values that they cannot have. -/
  | issues (list : List Issue)
  deriving Repr

/-- The name of the type of a value, as messages give it. -/
def Data.typeName : Data → String
  | null => "NoneType"
  | bool _ => "bool"
  | int _ => "int"
  | float _ => "float"
  | text _ => "str"
  | moment .dateTime => "datetime.datetime"
  | moment .date => "datetime.date"
  | moment .time => "datetime.time"
  | list _ => "list"
  | table _ => "dict"

/-- The wording of the error. -/
def SettingsError.message : SettingsError → String
  | invalidEncoding => "invalid UTF-8"
  | invalidToml path => "Invalid TOML in " ++ String.ofList (baseName path)
  | longInteger cause => cause.message
  | nameTooLong path => longNameMessage path
  | toolsNotATable found => "'" ++ found.typeName ++ "' object has no attribute 'get'"
  | settingsWithoutParts found => "object of type '" ++ found.typeName ++ "' has no len()"
  | settingsWithoutNames found =>
    "jinjalens.config.LensConfig() argument after ** must be a mapping, not " ++ found.typeName
  | issues list => issueHeadline "LensConfig" list

/-- The settings in the table of all tools. -/
def Settings.ofTools (tools : Fields) : Except SettingsError Settings :=
  match (tools.get? "jinjalens".toList).getD (.table []) with
  | .table fields => (Settings.ofFields fields).mapError .issues
  | .text s => .error (.settingsWithoutNames (.text s))
  | .list items => .error (.settingsWithoutNames (.list items))
  | found => .error (.settingsWithoutParts found)

/-- The settings in a TOML document. -/
def Settings.ofDocument (document : Fields) : Except SettingsError Settings :=
  match (document.get? "tool".toList).getD (.table []) with
  | .table tools => ofTools tools
  | found => .error (.toolsNotATable found)

/-- The settings that the file at a path has. -/
def Settings.ofFile (path : Text) : FileEntry → Except SettingsError Settings
  | .file bytes =>
    match decodeUtf8? bytes with
    | none => .error .invalidEncoding
    | some t =>
      match Toml.read? t with
      | .ok document => ofDocument document
      | .error .malformed => .error (.invalidToml path)
      | .error (.longInteger cause) => .error (.longInteger cause)
  | .nameTooLong => .error (.nameTooLong path)
  | _ => .ok {}

end TemplateAssist
