import TemplateAssist.File
import TemplateAssist.Json.Reader
import TemplateAssist.Variable.Value

/-!
# Variable trees from files

A file of variables holds one JSON object.
-/

set_option autoImplicit false

namespace TemplateAssist

/-- Why a file gives no variables. -/
inductive VariablesError where
  | missing (path : Text)
  | blocked (path : Text)
  | nameTooLong (path : Text)
  /-- The path has a character that no path can have. -/
  | unnameable
  | isDirectory (path : Text)
  | invalidEncoding
  | invalidJson (path : Text)
  /-- An integer in the file has too many digits. -/
  | longInteger (cause : LongInteger)
  | notAnObject (path : Text)
  deriving DecidableEq, Repr

/-- The wording of the error. -/
def VariablesError.message : VariablesError → String
  | missing path => "[Errno 2] No such file or directory: " ++ String.ofList path.quoted
  | blocked path => "[Errno 20] Not a directory: " ++ String.ofList path.quoted
  | nameTooLong path => longNameMessage path
  | unnameable => "embedded null byte"
  | isDirectory path => "[Errno 21] Is a directory: " ++ String.ofList path.quoted
  | invalidEncoding => "invalid UTF-8"
  | invalidJson path => "Invalid JSON in " ++ String.ofList (baseName path)
  | longInteger cause => cause.message
  | notAnObject path => "Variables file " ++ String.ofList path ++ " must contain a JSON object"

/-- The variables that a JSON text describes. -/
def VariableTree.ofJson (path t : Text) : Except VariablesError VariableTree :=
  match Json.read? t with
  | .error .malformed => .error (.invalidJson path)
  | .error (.longInteger cause) => .error (.longInteger cause)
  | .ok (.table fields) => .ok ⟨Value.toChildren (Value.ofFields fields)⟩
  | .ok _ => .error (.notAnObject path)

/-- The variables that the file at a path describes. -/
def VariableTree.ofFile (path : Text) : FileEntry → Except VariablesError VariableTree
  | .missing => .error (.missing path)
  | .blocked => .error (.blocked path)
  | .nameTooLong => .error (.nameTooLong path)
  | .unnameable => .error .unnameable
  | .directory => .error (.isDirectory path)
  | .file bytes =>
    match readLines? bytes with
    | some t => ofJson path t
    | none => .error .invalidEncoding

end TemplateAssist
