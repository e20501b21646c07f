import TemplateAssist.CommandLine.Command
import TemplateAssist.Cursor.Line
import TemplateAssist.Hover
import TemplateAssist.Lint
import TemplateAssist.Report.ControlSequence
import TemplateAssist.Report.Document
import TemplateAssist.Report.Markup
import TemplateAssist.Report.Table
import TemplateAssist.Settings.File
import TemplateAssist.Snippet
import TemplateAssist.Variable.File

/-!
# Running commands

`Command.run` gives the outcome of a command: what it prints and the code it exits with.  It looks
at files through a `Lookup`, and `Command.paths` lists those that it may look at.
-/

set_option autoImplicit false

namespace TemplateAssist

/-- What stands at each path. -/
abbrev Lookup := Text → FileEntry

/-- Why a command was broken off. -/
inductive Breakdown where
  | settings (cause : SettingsError)
  | markup (cause : Markup.Fault)
  /-- The path of the document has a character that no path can have. -/
  | unnameable
  deriving Repr

/-- How a command ends. -/
inductive Outcome where
  /-- It ends by itself. -/
  | exit (code : Nat) (output : Text)
  /-- It is broken off before it prints anything. -/
  | broken (cause : Breakdown)

namespace Outcome

/-- The words of the command line made no sense. -/
def usage : Outcome := exit 2 []

/-- The command prints styled text, or is broken off by a tag in it. -/
def styled (code : Nat) (output : Except Markup.Fault Text) : Outcome :=
  match output with
  | .ok output => exit code output
  | .error e => broken (.markup e)

/-- The command failed for a reason. -/
def failed (message : String) : Outcome :=
  styled 1 ((Markup.plain? ("[red]Error:[/] ".toList ++ Markup.escape message.toList)).map
    (Text.shown terminalWidth))

/-- The command printed a line, which is text for a file. -/
def printed (line : Text) : Outcome := exit 0 (line.dropControl ++ ['\n'])

end Outcome

/-! ## Inputs -/

/-- What a command on a file works with. -/
structure Inputs where
  text : Text
  tree : VariableTree
  settings : Settings

/-- The text of a document. -/
def readDocument (lookup : Lookup) (path : Text) : Except Outcome Text :=
  match lookup path with
  | .file bytes =>
    match readLines? bytes with
    | some t => .ok t
    | none => .error (.failed "invalid UTF-8")
  | .unnameable => .error (.broken .unnameable)
  | _ => .error .usage

/-- The variables of a file, or the built-in ones if none is given. -/
def readVariables (lookup : Lookup) : Option Text → Except Outcome VariableTree
  | none => .ok .builtin
  | some given =>
    let path := normalPath given
    (VariableTree.ofFile path (lookup path)).mapError (.failed ·.message)

/-- How a command ends if there are no settings.  Values that a setting cannot have are reported;
tables of another shape are not expected. -/
def SettingsError.outcome : SettingsError → Outcome
  | .toolsNotATable found => .broken (.settings (.toolsNotATable found))
  | .settingsWithoutParts found => .broken (.settings (.settingsWithoutParts found))
  | .settingsWithoutNames found => .broken (.settings (.settingsWithoutNames found))
  | e => .failed e.message

/-- The path of a settings file, given its own path or that of its directory. -/
def settingsPath (lookup : Lookup) (path : Text) : Text :=
  match lookup path with
  | .directory => inDirectory path settingsFileName
  | _ => path

/-- The settings of a file or a directory; of the current directory, if none is given. -/
def readSettings (lookup : Lookup) (config : Option Text) : Except Outcome Settings :=
  let path := settingsPath lookup (normalPath (config.getD ['.']))
  (Settings.ofFile path (lookup path)).mapError SettingsError.outcome

/-- The inputs of a command on a file: the document is read first, then the variables, then the
settings. -/
def readInputs (lookup : Lookup) (file : Text) (known config : Option Text) :
    Except Outcome Inputs := do
  let text ← readDocument lookup file
  let tree ← readVariables lookup known
  let settings ← readSettings lookup config
  return ⟨text, tree, settings⟩

/-! ## Outputs -/

/-- The table with the tags in its title and cells taken out. -/
def Table.unstyled (t : Table) : Except Markup.Fault Table := do
  let title ← Markup.plain? t.title
  let rows ← t.rows.mapM fun row ↦ row.mapM Markup.plain?
  return { t with title, rows }

/-- The table of findings. -/
def findingsTable (name text : Text) (found : List Finding) : Table where
  title := "Diagnostics: ".toList ++ name
  columns := [⟨"Line", .right⟩, ⟨"Col", .right⟩, ⟨"Severity", .left⟩, ⟨"Message", .left⟩]
  rows := found.map fun d ↦
    let (line, column) := text.lineColumn d.span.start
    [(toString line).toList, (toString column).toList, d.severity.name.toList,
      d.problem.message.toList]

/-- The table of candidates. -/
def completionTable (c : Completion) : Table where
  title := ("Completions (replace " ++ toString c.span.start ++ "-" ++ toString c.span.stop
    ++ ")").toList
  columns := [⟨"Label", .left⟩, ⟨"Kind", .left⟩, ⟨"Insert", .left⟩, ⟨"Detail", .left⟩]
  rows := c.candidates.map fun c ↦
    [c.label, c.kind.name.toList, c.insertion.quoted, c.detail.toList]

/-- The table of all kinds of snippet. -/
def snippetTable : Table where
  title := "Snippets".toList
  columns := [⟨"Kind", .left⟩, ⟨"Name", .left⟩, ⟨"Description", .left⟩]
  rows := SnippetKind.all.map fun kind ↦
    [kind.key.toList, kind.label.toList, kind.description.toList]

/-- The version in a box over the whole width of the terminal. -/
def versionBox : Text :=
  let edge := List.replicate (terminalWidth - 2) '─'
  ['╭'] ++ edge ++ ['╮', '\n']
    ++ Table.pad .left (terminalWidth - 1) "│ jinjalens version 0.1.0".toList ++ ['│', '\n']
    ++ ['╰'] ++ edge ++ ['╯', '\n']

/-- Shows findings; there are none in a clean document. -/
def showFindings (name : Text) (json : Bool) (text : Text) (found : List Finding) : Outcome :=
  let code := if found.isEmpty then 0 else 1
  if json then .exit code ((Json.Document.list (found.map Diagnostic.document)).write ++ ['\n'])
  else if found.isEmpty then
    Outcome.styled code
      ((Markup.plain? ("No problems found in ".toList ++ name)).map (Text.shown terminalWidth))
  else
    Outcome.styled code (do
      let table ← (findingsTable name text found).unstyled
      return table.write ++ ("Summary: " ++ toString found.length ++ " problem(s)\n").toList)

/-- Shows a completion. -/
def showCompletion (json : Bool) (c : Option Completion) : Outcome :=
  match json, c with
  | true, some c => .printed c.document.write
  | true, none => .printed Json.Document.null.write
  | false, some c => Outcome.styled 0 ((completionTable c).unstyled.map Table.write)
  | false, none => .printed "No completions".toList

/-! ## Snippets -/

/-- The fields given as words of the form `key=value`; a later one counts. -/
def snippetForm (given : Fields) : List Text → Except Outcome Fields
  | [] => .ok given
  | word :: words =>
    let key := word.upTo '='
    if key.length = word.length then
      .error (.failed ("Expected key=value, got '" ++ String.ofList word ++ "'"))
    else snippetForm (setField given key.trim (.text (word.drop (key.length + 1)))) words

/-- Writes a snippet of a kind. -/
def writeSnippet (today : Date) (kind : Text) (words : List Text) : Except Outcome Outcome := do
  let form ← snippetForm [] words
  let fields ← (SnippetFields.ofFields form).mapError fun issues ↦
    Outcome.failed (issueHeadline "SnippetFields" issues)
  let kind ← (SnippetKind.ofData (.text kind)).mapError fun e ↦ Outcome.failed e.message
  return .printed (renderSnippet kind fields today)

/-! ## Commands -/

namespace Command

/-- The paths that a command may look at. -/
def paths : Command → List Text
  | lint file known config _ => documentPaths file known config
  | context file _ => documentPaths file none none
  | complete file _ known config _ => documentPaths file known config
  | hover file _ => documentPaths file none none
  | _ => []
where
  /-- The paths of a document, and of its variables and settings. -/
  documentPaths (file : Text) (known config : Option Text) : List Text :=
    let directory := normalPath (config.getD ['.'])
    [file, directory, inDirectory directory settingsFileName] ++ known.toList.map normalPath

/-- The cursor of a command, which is at the end of the text if none is given. -/
def cursor (offset : Option Int) (text : Text) : Int := offset.getD text.length

/-- The outcome of a command, or how it ends early. -/
def attempt (lookup : Lookup) (today : Date) : Command → Except Outcome Outcome
  | version => return .exit 0 versionBox
  | help => return .exit 0 []
  | lint file known config json => do
    let i ← readInputs lookup file known config
    return showFindings (baseName file) json i.text (TemplateAssist.lint i.settings i.tree i.text)
  | context file offset => do
    let i ← readInputs lookup file none none
    return .printed (i.text.contextAt i.settings (cursor offset i.text)).document.write
  | complete file offset known config json => do
    let i ← readInputs lookup file known config
    return showCompletion json
      (TemplateAssist.complete i.settings i.tree i.text (cursor offset i.text))
  | hover file offset => do
    let i ← readInputs lookup file none none
    match TemplateAssist.hover i.settings i.text (cursor offset i.text) with
    | some e => return .printed e.text.toList
    | none => return .printed "No documentation".toList
  | snippet none _ => return .exit 0 snippetTable.write
  | snippet (some kind) fields => writeSnippet today kind fields

/-- The outcome of a command. -/
def run (lookup : Lookup) (today : Date) (c : Command) : Outcome :=
  match c.attempt lookup today with
  | .ok outcome => outcome
  | .error outcome => outcome

end Command

/-- The outcome of a command line. -/
def runWords (lookup : Lookup) (today : Date) (words : List Text) : Outcome :=
  match Command.parse words with
  | .ok command => command.run lookup today
  | .error _ => .usage

end TemplateAssist
