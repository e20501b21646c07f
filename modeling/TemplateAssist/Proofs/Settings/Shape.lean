import Mathlib.Tactic.ByContra
import TemplateAssist.Settings.File

/-!
# Settings of another shape

A TOML file can have anything where the table of all tools, or the table of settings in it, should
be.  `Settings.Misshapen` says this of a document, and `Settings.MisshapenIn` of the bytes of a
file.

Main statement: the content of a file gives settings or an error of one of the expected kinds,
unless it has such a shape (`Settings.expected_of_ofFile`, `Settings.exists_unexpected_iff`).
-/

set_option autoImplicit false

namespace TemplateAssist

/-- The field is there, but it is no table. -/
def Fields.NoTableAt (fields : Fields) (name : Text) : Prop :=
  ∃ found, fields.get? name = some found ∧ ∀ inner, found ≠ .table inner

/-- Something else stands where the table of all tools or the table of settings should be. -/
def Settings.Misshapen (document : Fields) : Prop :=
  document.NoTableAt "tool".toList ∨
    ∃ tools, document.get? "tool".toList = some (.table tools) ∧
      Fields.NoTableAt tools "jinjalens".toList

/-- The bytes are a TOML document of another shape than that of settings. -/
def Settings.MisshapenIn (bytes : ByteArray) : Prop :=
  ∃ text document, decodeUtf8? bytes = some text ∧ Toml.read? text = .ok document ∧
    Misshapen document

namespace SettingsError

/-- The errors of a file that is no TOML, or in which a setting has a value that it cannot have. -/
inductive Expected : SettingsError → Prop
  | invalidEncoding : Expected .invalidEncoding
  | invalidToml (path : Text) : Expected (.invalidToml path)
  | longInteger (cause : LongInteger) : Expected (.longInteger cause)
  | issues (list : List Issue) : Expected (.issues list)

/-- The errors of tables that are none. -/
inductive OfShape : SettingsError → Prop
  | tools (found : Data) : OfShape (.toolsNotATable found)
  | parts (found : Data) : OfShape (.settingsWithoutParts found)
  | names (found : Data) : OfShape (.settingsWithoutNames found)

theorem OfShape.not_expected {e : SettingsError} (h : e.OfShape) : ¬ e.Expected := by
  cases h <;> nofun

end SettingsError

theorem mapError_eq_error_iff {α ε ε' : Type} {x : Except ε α} {f : ε → ε'} {e : ε'} :
    x.mapError f = .error e ↔ ∃ cause, x = .error cause ∧ f cause = e := by
  cases x <;> simp [Except.mapError]

theorem decodeUtf8?_toUTF8 (s : String) : decodeUtf8? s.toUTF8 = some s.toList := by
  have hvalid : s.toUTF8.IsValidUTF8 := s.isValidUTF8
  rw [decodeUtf8?, String.fromUTF8?, dif_pos hvalid]
  rfl

theorem Fields.noTableAt_iff {fields : Fields} {name : Text} :
    fields.NoTableAt name ↔ ∀ inner, (fields.get? name).getD (.table []) ≠ .table inner := by
  unfold NoTableAt
  cases fields.get? name <;> simp

namespace Settings

variable {tools document : Fields} {path : Text} {bytes : ByteArray} {e : SettingsError}

theorem exists_ofTools_eq_error (h : tools.NoTableAt "jinjalens".toList) :
    ∃ e, ofTools tools = .error e ∧ e.OfShape := by
  rw [Fields.noTableAt_iff] at h
  unfold ofTools
  split
  · next fields hfields => exact absurd hfields (h fields)
  · exact ⟨_, rfl, .names _⟩
  · exact ⟨_, rfl, .names _⟩
  · exact ⟨_, rfl, .parts _⟩

theorem expected_of_ofTools (h : ¬ tools.NoTableAt "jinjalens".toList)
    (he : ofTools tools = .error e) : e.Expected := by
  simp only [Fields.noTableAt_iff, not_forall, not_not] at h
  obtain ⟨fields, hfields⟩ := h
  simp only [ofTools, hfields, mapError_eq_error_iff] at he
  obtain ⟨list, -, rfl⟩ := he
  exact .issues list

theorem exists_ofDocument_eq_error (h : Misshapen document) :
    ∃ e, ofDocument document = .error e ∧ e.OfShape := by
  rcases h with h | ⟨tools, htools, h⟩
  · rw [Fields.noTableAt_iff] at h
    unfold ofDocument
    split
    · next fields hfields => exact absurd hfields (h fields)
    · exact ⟨_, rfl, .tools _⟩
  · rw [ofDocument, htools]
    exact exists_ofTools_eq_error h

theorem expected_of_ofDocument (h : ¬ Misshapen document)
    (he : ofDocument document = .error e) : e.Expected := by
  obtain ⟨hdocument, hinner⟩ := not_or.1 h
  simp only [Fields.noTableAt_iff, not_forall, not_not] at hdocument
  obtain ⟨tools, htools⟩ := hdocument
  simp only [ofDocument, htools] at he
  refine expected_of_ofTools (fun hnone ↦ ?_) he
  cases hget : document.get? "tool".toList with
  | some found =>
    rw [hget] at htools
    exact hinner ⟨tools, hget.trans (congrArg some htools), hnone⟩
  | none =>
    -- without tools there are the settings of an empty table
    rw [hget] at htools
    obtain rfl := Data.table.inj htools
    obtain ⟨found, hfound, -⟩ := hnone
    cases hfound

theorem exists_ofFile_eq_error (path : Text) (h : MisshapenIn bytes) :
    ∃ e, ofFile path (.file bytes) = .error e ∧ e.OfShape := by
  obtain ⟨text, document, htext, hread, h⟩ := h
  simpa only [ofFile, htext, hread] using exists_ofDocument_eq_error h

/-- **Any other content gives settings or an expected error.** -/
theorem expected_of_ofFile (h : ¬ MisshapenIn bytes) (he : ofFile path (.file bytes) = .error e) :
    e.Expected := by
  simp only [ofFile] at he
  split at he
  · obtain rfl := Except.error.inj he
    exact .invalidEncoding
  · next text htext =>
    split at he
    · next document hread =>
      exact expected_of_ofDocument (fun hshape ↦ h ⟨text, document, htext, hread, hshape⟩) he
    · obtain rfl := Except.error.inj he
      exact .invalidToml path
    · obtain rfl := Except.error.inj he
      exact .longInteger _

theorem exists_ofShape_iff {entry : FileEntry} :
    (∃ e, ofFile path entry = .error e ∧ e.OfShape) ↔
      ∃ bytes, entry = .file bytes ∧ MisshapenIn bytes := by
  constructor
  · rintro ⟨e, he, hshape⟩
    cases entry with
    | file bytes =>
      refine ⟨bytes, rfl, ?_⟩
      by_contra h
      exact hshape.not_expected (expected_of_ofFile h he)
    | nameTooLong =>
      obtain rfl := Except.error.inj he
      cases hshape
    | _ => cases he
  · rintro ⟨bytes, rfl, h⟩
    exact exists_ofFile_eq_error path h

theorem exists_unexpected_iff (path : Text) :
    (∃ e, ofFile path (.file bytes) = .error e ∧ ¬ e.Expected) ↔ MisshapenIn bytes := by
  constructor
  · rintro ⟨e, he, hexpected⟩
    by_contra h
    exact hexpected (expected_of_ofFile h he)
  · intro h
    obtain ⟨e, he, hshape⟩ := exists_ofFile_eq_error path h
    exact ⟨e, he, hshape.not_expected⟩

/-- A number in the place of the table of all tools. -/
theorem exists_ofFile_number_for_tools (path : Text) :
    ∃ n, ofFile path (.file "tool = 1".toUTF8) = .error (.toolsNotATable (.int n)) := by
  have htype : ((Toml.read? "tool = 1".toList).toOption.bind (Fields.get? · "tool".toList)).map
      Data.typeName = some "int" := by decide +kernel
  cases hread : Toml.read? "tool = 1".toList with
  | error fault =>
    rw [hread] at htype
    cases htype
  | ok document =>
    rw [hread] at htype
    obtain ⟨found, hfound, htype⟩ := Option.map_eq_some_iff.1 htype
    have hget : document.get? "tool".toList = some found := hfound
    simp only [ofFile, decodeUtf8?_toUTF8, hread, ofDocument, hget, Option.getD_some]
    cases found with
    | int n => exact ⟨n, rfl⟩
    | moment m => cases m <;> simp [Data.typeName] at htype
    | _ => simp [Data.typeName] at htype

end Settings

end TemplateAssist
