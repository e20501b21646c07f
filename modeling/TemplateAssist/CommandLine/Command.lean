import TemplateAssist.CommandLine.Arguments
import TemplateAssist.Number.Limit
import TemplateAssist.Text.Blank
import TemplateAssist.Text.DecimalDigit

/-!
# Commands

What a command line asks for.
-/

set_option autoImplicit false

namespace TemplateAssist

/-- What a command line asks for. -/
inductive Command where
  /-- Show the version. -/
  | version
  /-- Show how the program is used. -/
  | help
  /-- Check a document. -/
  | lint (file : Text) (known config : Option Text) (json : Bool)
  /-- Show the context at a cursor. -/
  | context (file : Text) (offset : Option Int)
  /-- Show the completion at a cursor. -/
  | complete (file : Text) (offset : Option Int) (known config : Option Text) (json : Bool)
  /-- Explain the word at a cursor. -/
  | hover (file : Text) (offset : Option Int)
  /-- Write a snippet, filled with the given fields; without a kind, list the kinds. -/
  | snippet (kind : Option Text) (fields : List Text)
  deriving DecidableEq, Repr

namespace Command

/-! ## Options -/

/-- The option that every command has. -/
def helpOption : OptionSpec := ⟨"--help", none, false⟩

/-- The option for the cursor. -/
def offsetOption : OptionSpec := ⟨"--offset", some 'o', true⟩

/-- The option for a file of variables. -/
def variablesOption : OptionSpec := ⟨"--variables", none, true⟩

/-- The option for a file of settings. -/
def configOption : OptionSpec := ⟨"--config", some 'c', true⟩

/-- The option for output as JSON. -/
def jsonOption : OptionSpec := ⟨"--json", none, false⟩

/-- The options before the name of a command. -/
def programOptions : List OptionSpec :=
  [⟨"--version", some 'V', false⟩, ⟨"--verbose", some 'v', false⟩, helpOption]

/-- The integer that a text writes: perhaps a sign, and decimal digits of any script with single
underscores between them, and not too many; blanks may stand around it. -/
def integer? (t : Text) : Option Int :=
  let body := t.trim
  let (negative, digits) : Bool × Text :=
    match body with
    | '-' :: rest => (true, rest)
    | '+' :: rest => (false, rest)
    | _ => (false, body)
  let groups := digits.splitOn '_'
  if groups.all (fun group ↦ !group.isEmpty && group.all isDecimalDigit)
      && groups.flatten.length ≤ maxIntegerDigits then
    some (signed negative (Text.decimalValue groups.flatten))
  else none

/-- The cursor that is given, if any. -/
def offset (a : Arguments) : Except UsageError (Option Int) :=
  match a.value? "--offset" with
  | none => .ok none
  | some t =>
    match integer? t with
    | some n => .ok (some n)
    | none => .error ⟨⟩

/-- The one argument that a command needs. -/
def onlyArgument (a : Arguments) : Except UsageError Text :=
  match a.arguments with
  | [argument] => .ok argument
  | _ => .error ⟨⟩

/-! ## Commands -/

/-- The words after the name of a command, sorted; `none` if they ask for help. -/
def sorted (specs : List OptionSpec) (words : List Text) :
    Except UsageError (Option Arguments) := do
  let a ← Arguments.parse (helpOption :: specs) true words
  return if a.has "--help" then none else some a

/-- The command with a name, for the words after it. -/
def ofWords (name : Text) (words : List Text) : Except UsageError Command :=
  let read (specs : List OptionSpec) (build : Arguments → Except UsageError Command) :
      Except UsageError Command := do
    match ← sorted specs words with
    | none => return help
    | some a => build a
  match String.ofList name with
  | "lint" =>
    read [variablesOption, configOption, jsonOption] fun a ↦ do
      return lint (← onlyArgument a) (a.value? "--variables") (a.value? "--config") (a.has "--json")
  | "context" =>
    read [offsetOption] fun a ↦ do
      return context (← onlyArgument a) (← offset a)
  | "complete" =>
    read [offsetOption, variablesOption, configOption, jsonOption] fun a ↦ do
      return complete (← onlyArgument a) (← offset a) (a.value? "--variables")
        (a.value? "--config") (a.has "--json")
  | "hover" =>
    read [offsetOption] fun a ↦ do
      return hover (← onlyArgument a) (← offset a)
  | "snippet" =>
    read [⟨"--set", some 's', true⟩, ⟨"--list", some 'l', false⟩] fun a ↦
      match a.arguments with
      | [] => return snippet none (a.values "--set")
      | [kind] => return snippet (if a.has "--list" then none else some kind) (a.values "--set")
      | _ => .error ⟨⟩
  | _ => .error ⟨⟩

/-- What a command line asks for.  The version and help are shown whatever follows. -/
def parse (words : List Text) : Except UsageError Command := do
  let a ← Arguments.parse programOptions false words
  let shown := (a.options.map (·.1)).find? fun name ↦ name = "--version" ∨ name = "--help"
  match shown, a.arguments with
  | some "--version", _ => return version
  | some _, _ => return help
  | none, [] => .error ⟨⟩
  | none, name :: words => ofWords name words

end Command

end TemplateAssist
