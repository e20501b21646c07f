import TemplateAssist.CommandLine.Run
import TemplateAssist.Proofs.Report.Escape
import TemplateAssist.Proofs.Settings.Shape

/-!
# What breaks a command off

A command on a file reads the document, the variables and the settings, and ends with an exit code
if one of them is at fault.  The exception is a settings file of another shape
(`Settings.MisshapenIn`), which is no error that a command expects.  Later, what a command shows is
printed with the tags in it taken out, and a tag at fault (`Markup.Faulty`) is not expected either,
though names and descriptions of variables may hold one.

* `Outcome.exists_failed_eq` — a command that reports an error ends with an exit code, whatever the
  wording of the error is;
* `exists_readInputs_eq_broken_iff` — which inputs break a command off (`Misconfigured`);
* `Command.exists_run_eq_broken_iff` — nothing else does before a command prints;
* `Command.exists_run_eq_markup_iff` — which tags do when it prints.
-/

set_option autoImplicit false

namespace TemplateAssist

/-! ## Steps that fail -/

section Steps

variable {α β ε : Type}

/-- Two steps fail if the first one does, or else the second. -/
theorem bind_eq_error_iff {x : Except ε α} {f : α → Except ε β} {e : ε} :
    x >>= f = .error e ↔ x = .error e ∨ ∃ a, x = .ok a ∧ f a = .error e := by
  cases x <;> simp [bind, Except.bind]

theorem exists_map_eq_error_iff {x : Except ε α} {f : α → β} :
    (∃ e, x.map f = .error e) ↔ ∃ e, x = .error e := by
  cases x <;> simp [Except.map]

/-- What is done to each part of a list fails if it fails for one of them, whichever that is. -/
theorem exists_mapM_eq_error_iff {f : α → Except ε β} {l : List α} :
    (∃ e, l.mapM f = .error e) ↔ ∃ a ∈ l, ∃ e, f a = .error e := by
  induction l with
  | nil => simp [pure, Except.pure]
  | cons a l ih =>
    simp only [List.mapM_cons, List.mem_cons, exists_eq_or_imp, ← ih]
    cases f a with
    | error e => simp [bind, Except.bind]
    | ok b => cases l.mapM f <;> simp [bind, Except.bind, pure, Except.pure]

end Steps

/-! ## How a command prints -/

/-- A tag in the text keeps it from being printed. -/
def Markup.Faulty (t : Text) : Prop := ∃ fault, plain? t = .error fault

namespace Table

/-- The texts of a table in which tags are looked for. -/
def texts (t : Table) : List Text := t.title :: t.rows.flatten

theorem exists_unstyled_eq_error_iff (t : Table) :
    (∃ fault, t.unstyled = .error fault) ↔ ∃ text ∈ t.texts, Markup.Faulty text := by
  have hrows : (∃ fault, t.rows.mapM (fun row ↦ row.mapM Markup.plain?) = .error fault) ↔
      ∃ text ∈ t.rows.flatten, Markup.Faulty text := by
    simp only [exists_mapM_eq_error_iff, List.mem_flatten]
    constructor
    · rintro ⟨row, hrow, text, htext, hfault⟩
      exact ⟨text, ⟨row, hrow, htext⟩, hfault⟩
    · rintro ⟨text, ⟨row, hrow, htext⟩, hfault⟩
      exact ⟨row, hrow, text, htext, hfault⟩
  simp only [texts, List.mem_cons, exists_eq_or_imp]
  rw [← hrows, unstyled, Markup.Faulty]
  cases Markup.plain? t.title with
  | error fault => simp [bind, Except.bind]
  | ok title =>
    cases t.rows.mapM (fun row ↦ row.mapM Markup.plain?) <;>
      simp [bind, Except.bind, pure, Except.pure]

end Table

namespace Outcome

theorem exists_failed_eq (message : String) : ∃ output, failed message = .exit 1 output := by
  obtain ⟨shown, hshown⟩ := Markup.exists_plain?_error message.toList
  exact ⟨Text.shown terminalWidth shown, by rw [failed, hshown]; rfl⟩

/-- An outcome of printing some texts with the tags in them taken out: a faulty one, and nothing
else, breaks the command off. -/
inductive Prints (texts : List Text) : Outcome → Prop where
  | exit {code : Nat} {output : Text} (sound : ¬ ∃ text ∈ texts, Markup.Faulty text) :
      Prints texts (.exit code output)
  | broken {fault : Markup.Fault} (faulty : ∃ text ∈ texts, Markup.Faulty text) :
      Prints texts (.broken (.markup fault))

section Prints

variable {texts : List Text}

theorem Prints.exists_eq_markup {cause : Breakdown} (h : Prints texts (.broken cause)) :
    ∃ fault, cause = .markup fault := by
  cases h with
  | broken => exact ⟨_, rfl⟩

theorem Prints.exists_eq_broken_iff {outcome : Outcome} (h : Prints texts outcome) :
    (∃ fault, outcome = .broken (.markup fault)) ↔ ∃ text ∈ texts, Markup.Faulty text := by
  cases h with
  | exit sound => simp [sound]
  | broken faulty => simp [faulty]

theorem prints_exit (code : Nat) (output : Text) : Prints [] (.exit code output) :=
  .exit (by simp)

theorem prints_failed (message : String) : Prints [] (failed message) := by
  obtain ⟨output, houtput⟩ := exists_failed_eq message
  exact houtput ▸ prints_exit 1 output

theorem prints_styled (code : Nat) {output : Except Markup.Fault Text}
    (h : (∃ fault, output = .error fault) ↔ ∃ text ∈ texts, Markup.Faulty text) :
    Prints texts (styled code output) := by
  cases output with
  | ok output => exact .exit fun hfaulty ↦ by simpa using h.2 hfaulty
  | error fault => exact .broken (h.1 ⟨fault, rfl⟩)

end Prints

/-- The texts in which findings are shown. -/
def findingsTexts (name : Text) (json : Bool) (text : Text) (found : List Finding) : List Text :=
  if json then []
  else if found.isEmpty then ["No problems found in ".toList ++ name]
  else (findingsTable name text found).texts

/-- The texts in which a completion is shown. -/
def completionTexts : Bool → Option Completion → List Text
  | false, some c => (completionTable c).texts
  | _, _ => []

theorem prints_showFindings (name : Text) (json : Bool) (text : Text) (found : List Finding) :
    Prints (findingsTexts name json text found) (showFindings name json text found) := by
  simp only [showFindings, findingsTexts]
  split_ifs
  · exact prints_exit _ _
  · exact prints_exit _ _
  · refine prints_styled _ ?_
    simp only [exists_map_eq_error_iff, List.mem_singleton, exists_eq_left, Markup.Faulty]
  · refine prints_styled _ ?_
    rw [← Table.exists_unstyled_eq_error_iff]
    simp only [bind_eq_error_iff, pure, Except.pure, reduceCtorEq, and_false, exists_false,
      or_false]

theorem prints_showCompletion (json : Bool) (c : Option Completion) :
    Prints (completionTexts json c) (showCompletion json c) := by
  cases json <;> cases c
  case false.some c =>
    refine prints_styled 0 ?_
    rw [exists_map_eq_error_iff, Table.exists_unstyled_eq_error_iff]
    rfl
  all_goals exact prints_exit _ _

end Outcome

/-! ## How errors in settings are reported -/

namespace SettingsError

theorem OfShape.outcome_eq {e : SettingsError} (h : e.OfShape) :
    e.outcome = .broken (.settings e) := by
  cases h <;> rfl

/-- The other errors are reported. -/
theorem exists_outcome_eq_exit {e : SettingsError} (h : ¬ e.OfShape) :
    ∃ output, e.outcome = .exit 1 output := by
  cases e with
  | toolsNotATable found => exact absurd (.tools found) h
  | settingsWithoutParts found => exact absurd (.parts found) h
  | settingsWithoutNames found => exact absurd (.names found) h
  | _ => exact Outcome.exists_failed_eq _

theorem outcome_eq_broken_iff {e : SettingsError} {cause : Breakdown} :
    e.outcome = .broken cause ↔ e.OfShape ∧ cause = .settings e := by
  by_cases h : e.OfShape
  · rw [h.outcome_eq, and_iff_right h, Outcome.broken.injEq, eq_comm]
  · obtain ⟨output, houtput⟩ := exists_outcome_eq_exit h
    simp [houtput, h]

end SettingsError

/-! ## Inputs -/

section Inputs

variable {lookup : Lookup} {file : Text} {known config : Option Text} {cause : Breakdown}

theorem readDocument_eq_broken_iff :
    readDocument lookup file = .error (.broken cause) ↔
      cause = .unnameable ∧ lookup file = .unnameable := by
  unfold readDocument
  split
  · split
    · simp_all
    · obtain ⟨output, houtput⟩ := Outcome.exists_failed_eq "invalid UTF-8"
      simp_all
  · simp_all [eq_comm]
  · simp_all [Outcome.usage]

theorem readVariables_ne_broken (lookup : Lookup) (known : Option Text) (cause : Breakdown) :
    readVariables lookup known ≠ .error (.broken cause) := by
  cases known with
  | none => nofun
  | some given =>
    intro h
    obtain ⟨e, -, h⟩ := mapError_eq_error_iff.1 h
    obtain ⟨output, houtput⟩ := Outcome.exists_failed_eq e.message
    rw [houtput] at h
    cases h

/-- The path of the settings file that a command is given, or else that of the current directory. -/
def configPath (lookup : Lookup) (config : Option Text) : Text :=
  settingsPath lookup (normalPath (config.getD ['.']))

theorem readSettings_eq_broken_iff :
    readSettings lookup config = .error (.broken cause) ↔
      ∃ e, Settings.ofFile (configPath lookup config) (lookup (configPath lookup config))
          = .error e ∧
        e.OfShape ∧ cause = .settings e := by
  have hread : readSettings lookup config = (Settings.ofFile (configPath lookup config)
    (lookup (configPath lookup config))).mapError SettingsError.outcome := rfl
  simp only [hread, mapError_eq_error_iff, SettingsError.outcome_eq_broken_iff]

/-- The file given for the settings has something else where one of their tables should be, and the
document and the variables, which are read first, can be read. -/
structure Misconfigured (lookup : Lookup) (file : Text) (known config : Option Text) : Prop where
  document : ∃ text, readDocument lookup file = .ok text
  tree : ∃ tree, readVariables lookup known = .ok tree
  settings : ∃ bytes, lookup (configPath lookup config) = .file bytes ∧ Settings.MisshapenIn bytes

theorem misconfigured_iff :
    Misconfigured lookup file known config ↔
      (∃ text, readDocument lookup file = .ok text) ∧
        (∃ tree, readVariables lookup known = .ok tree) ∧
        ∃ cause, readSettings lookup config = .error (.broken cause) := by
  have hsettings : (∃ cause, readSettings lookup config = .error (.broken cause)) ↔
      ∃ bytes, lookup (configPath lookup config) = .file bytes ∧ Settings.MisshapenIn bytes := by
    rw [← Settings.exists_ofShape_iff]
    simp only [readSettings_eq_broken_iff]
    constructor
    · rintro ⟨cause, e, he, hshape, -⟩
      exact ⟨e, he, hshape⟩
    · rintro ⟨e, he, hshape⟩
      exact ⟨.settings e, e, he, hshape, rfl⟩
  rw [hsettings]
  exact ⟨fun h ↦ ⟨h.document, h.tree, h.settings⟩,
    fun ⟨hdocument, htree, hsettings⟩ ↦ ⟨hdocument, htree, hsettings⟩⟩

theorem readInputs_eq_broken_iff :
    readInputs lookup file known config = .error (.broken cause) ↔
      (cause = .unnameable ∧ lookup file = .unnameable) ∨
        ((∃ text, readDocument lookup file = .ok text) ∧
          (∃ tree, readVariables lookup known = .ok tree) ∧
          readSettings lookup config = .error (.broken cause)) := by
  simp only [readInputs, bind_eq_error_iff, readDocument_eq_broken_iff, readVariables_ne_broken,
    pure, Except.pure, reduceCtorEq, and_false, exists_false, or_false, false_or,
    exists_and_right]

theorem ne_markup_of_readInputs
    (h : readInputs lookup file known config = .error (.broken cause)) (fault : Markup.Fault) :
    cause ≠ .markup fault := by
  rcases readInputs_eq_broken_iff.1 h with ⟨rfl, -⟩ | ⟨-, -, h⟩
  · nofun
  · obtain ⟨e, -, -, rfl⟩ := readSettings_eq_broken_iff.1 h
    nofun

theorem exists_readInputs_eq_broken_iff :
    (∃ cause, readInputs lookup file known config = .error (.broken cause)) ↔
      lookup file = .unnameable ∨ Misconfigured lookup file known config := by
  simp [readInputs_eq_broken_iff, exists_or, misconfigured_iff]

end Inputs

/-! ## Commands -/

namespace Command

/-- The document, the variables and the settings that a command on a file is given. -/
def inputs? : Command → Option (Text × Option Text × Option Text)
  | lint file known config _ => some (file, known, config)
  | context file _ => some (file, none, none)
  | complete file _ known config _ => some (file, known, config)
  | hover file _ => some (file, none, none)
  | _ => none

section Run

variable {c : Command} {lookup : Lookup} {today : Date} {file : Text} {known config : Option Text}

/-- A command on a file ends as the reading of its inputs does, if they cannot be read. -/
theorem run_of_readInputs_error {outcome : Outcome} (h : c.inputs? = some (file, known, config))
    (hread : readInputs lookup file known config = .error outcome) :
    c.run lookup today = outcome := by
  cases c <;> cases h <;> simp [run, attempt, hread, bind, Except.bind]

/-- The texts that a command on a file prints with the tags in them taken out. -/
def styledTexts (i : Inputs) : Command → List Text
  | lint file _ _ json =>
    Outcome.findingsTexts (baseName file) json i.text
      (TemplateAssist.lint i.settings i.tree i.text)
  | complete _ offset _ _ json =>
    Outcome.completionTexts json
      (TemplateAssist.complete i.settings i.tree i.text (cursor offset i.text))
  | _ => []

/-- A command on a file prints, if its inputs can be read. -/
theorem prints_run_of_readInputs_ok {i : Inputs} (h : c.inputs? = some (file, known, config))
    (hread : readInputs lookup file known config = .ok i) :
    (c.run lookup today).Prints (c.styledTexts i) := by
  cases c <;> cases h <;> simp only [run, attempt, hread, bind, Except.bind]
  case lint => exact Outcome.prints_showFindings _ _ _ _
  case context => exact Outcome.prints_exit _ _
  case complete => exact Outcome.prints_showCompletion _ _
  case hover offset =>
    cases TemplateAssist.hover i.settings i.text (cursor offset i.text) <;>
      exact Outcome.prints_exit _ _

theorem prints_of_snippetForm_error {given : Fields} {words : List Text} {outcome : Outcome}
    (h : snippetForm given words = .error outcome) : outcome.Prints [] := by
  fun_induction snippetForm given words with
  | case1 given => cases h
  | case2 given word words key hkey =>
    obtain rfl := Except.error.inj h
    exact Outcome.prints_failed _
  | case3 given word words key hkey ih => exact ih h

/-- A command without a file ends with an exit code. -/
theorem prints_run_of_inputs? (h : c.inputs? = none) : (c.run lookup today).Prints [] := by
  cases c with
  | version => exact Outcome.prints_exit _ _
  | help => exact Outcome.prints_exit _ _
  | snippet kind words =>
    cases kind with
    | none => exact Outcome.prints_exit _ _
    | some kind =>
      simp only [run, attempt, writeSnippet]
      cases hform : snippetForm [] words with
      | error outcome =>
        simpa only [bind, Except.bind] using prints_of_snippetForm_error hform
      | ok form =>
        cases hfields : SnippetFields.ofFields form with
        | error issues =>
          simpa only [hfields, bind, Except.bind, Except.mapError] using Outcome.prints_failed _
        | ok fields =>
          cases SnippetKind.ofData (.text kind) with
          | error e =>
            simpa only [hfields, bind, Except.bind, Except.mapError] using Outcome.prints_failed _
          | ok kind =>
            simp only [hfields, bind, Except.bind, Except.mapError]
            exact Outcome.prints_exit _ _
  | _ => cases h

/-- **A command is broken off before it prints** exactly if it is one on a file, and the path of the
file cannot exist or the settings that it is given have another shape. -/
theorem exists_run_eq_broken_iff :
    (∃ cause, (∀ fault, cause ≠ .markup fault) ∧ c.run lookup today = .broken cause) ↔
      ∃ file known config, c.inputs? = some (file, known, config) ∧
        (lookup file = .unnameable ∨ Misconfigured lookup file known config) := by
  simp only [← exists_readInputs_eq_broken_iff]
  constructor
  · rintro ⟨cause, hcause, hrun⟩
    have hprints {texts : List Text} : ¬ (c.run lookup today).Prints texts := by
      rw [hrun]
      intro h
      obtain ⟨fault, hfault⟩ := h.exists_eq_markup
      exact hcause fault hfault
    cases hinputs : c.inputs? with
    | none => exact absurd (prints_run_of_inputs? hinputs) hprints
    | some inputs =>
      obtain ⟨file, known, config⟩ := inputs
      refine ⟨file, known, config, rfl, cause, ?_⟩
      cases hread : readInputs lookup file known config with
      | ok i => exact absurd (prints_run_of_readInputs_ok hinputs hread) hprints
      | error outcome => rw [← hrun, run_of_readInputs_error hinputs hread]
  · rintro ⟨file, known, config, hinputs, cause, hread⟩
    exact ⟨cause, ne_markup_of_readInputs hread, run_of_readInputs_error hinputs hread⟩

/-- **A command is broken off by what it prints** exactly if it is one on a file, its inputs can be
read, and a tag in one of the texts that it shows for them is at fault. -/
theorem exists_run_eq_markup_iff :
    (∃ fault, c.run lookup today = .broken (.markup fault)) ↔
      ∃ file known config i, c.inputs? = some (file, known, config) ∧
        readInputs lookup file known config = .ok i ∧
        ∃ text ∈ c.styledTexts i, Markup.Faulty text := by
  cases hinputs : c.inputs? with
  | none =>
    rw [(prints_run_of_inputs? hinputs).exists_eq_broken_iff]
    simp
  | some inputs =>
    obtain ⟨file, known, config⟩ := inputs
    cases hread : readInputs lookup file known config with
    | ok i =>
      rw [(prints_run_of_readInputs_ok hinputs hread).exists_eq_broken_iff]
      refine ⟨fun hfaulty ↦ ⟨file, known, config, i, rfl, hread, hfaulty⟩, ?_⟩
      rintro ⟨_, _, _, j, ⟨rfl⟩, hj, hfaulty⟩
      obtain rfl : i = j := Except.ok.inj (hread.symm.trans hj)
      exact hfaulty
    | error outcome =>
      rw [run_of_readInputs_error hinputs hread]
      refine iff_of_false ?_ (by simp [hread])
      rintro ⟨fault, rfl⟩
      exact ne_markup_of_readInputs hread fault rfl

end Run

end Command

/-- **What breaks a command off.**  A settings file gives settings or an expected error, unless it
has something else where one of their tables should be.  If a command on a file can read its
document and its variables, then two things keep it from ending with an exit code: such a settings
file, and a faulty tag in one of the texts that it shows. -/
theorem breakdown_iff (path : Text) (bytes : ByteArray) (lookup : Lookup) (today : Date)
    (c : Command) :
    ((∃ e, Settings.ofFile path (.file bytes) = .error e ∧ ¬ e.Expected) ↔
      Settings.MisshapenIn bytes) ∧
    (∀ file known config,
      (∃ cause, readInputs lookup file known config = .error (.broken cause)) ↔
        lookup file = .unnameable ∨ Misconfigured lookup file known config) ∧
    ((∃ cause, (∀ fault, cause ≠ .markup fault) ∧ c.run lookup today = .broken cause) ↔
      ∃ file known config, c.inputs? = some (file, known, config) ∧
        (lookup file = .unnameable ∨ Misconfigured lookup file known config)) ∧
    ((∃ fault, c.run lookup today = .broken (.markup fault)) ↔
      ∃ file known config i, c.inputs? = some (file, known, config) ∧
        readInputs lookup file known config = .ok i ∧
        ∃ text ∈ c.styledTexts i, Markup.Faulty text) :=
  ⟨Settings.exists_unexpected_iff path, fun _ _ _ ↦ exists_readInputs_eq_broken_iff,
    Command.exists_run_eq_broken_iff, Command.exists_run_eq_markup_iff⟩

/-- With a number for the table of all tools there is an error that is not expected, and `lint` ends
without an exit code. -/
theorem lint_broken_by_number :
    ∃ e, Settings.ofFile settingsFileName (.file "tool = 1".toUTF8) = .error e ∧ ¬ e.Expected ∧
      (Command.lint "a.txt".toList none none false).run
          (FileTree.find [(["a.txt".toList], "a".toUTF8), ([settingsFileName], "tool = 1".toUTF8)])
          ⟨2024, 1, 31⟩
        = .broken (.settings e) := by
  obtain ⟨n, hfile⟩ := Settings.exists_ofFile_number_for_tools settingsFileName
  refine ⟨_, hfile, nofun, ?_⟩
  generalize htree : FileTree.find
    [(["a.txt".toList], "a".toUTF8), ([settingsFileName], "tool = 1".toUTF8)] = lookup
  have hdocument : lookup "a.txt".toList = .file "a".toUTF8 := htree ▸ rfl
  have hdirectory : lookup ['.'] = .directory := htree ▸ rfl
  have hsettings : lookup settingsFileName = .file "tool = 1".toUTF8 := htree ▸ rfl
  have hpath : configPath lookup none = settingsFileName := by
    have hnormal : normalPath ['.'] = ['.'] := by decide
    rw [configPath, Option.getD_none, hnormal, settingsPath, hdirectory]
    decide
  have htext : readDocument lookup "a.txt".toList = .ok "a".toList := by
    simp only [readDocument, hdocument, readLines?, decodeUtf8?_toUTF8]
    rfl
  refine Command.run_of_readInputs_error rfl
    (readInputs_eq_broken_iff.2 (.inr ⟨⟨_, htext⟩, ⟨_, rfl⟩, readSettings_eq_broken_iff.2 ?_⟩))
  rw [hpath, hsettings]
  exact ⟨_, hfile, .tools _, rfl⟩

end TemplateAssist
