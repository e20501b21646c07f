import TemplateAssist.Text.Basic

/-!
# Options and arguments

The words of a command line are options, their values and arguments.  A long option may carry its
value after an equals sign; short options may be written together, and the last of them may carry
its value directly.  A word of two hyphens ends the options.

`Arguments.parse` sorts the words, given what options there are.
-/

set_option autoImplicit false

namespace TemplateAssist

/-- An option that a command knows. -/
structure OptionSpec where
  /-- The option with two hyphens. -/
  long : String
  /-- The letter of the option with one hyphen. -/
  short : Option Char := none
  takesValue : Bool := false
  deriving DecidableEq, Repr

/-- The options given and the arguments, both in order.  An option is named by its long form. -/
structure Arguments where
  options : List (String × Text)
  arguments : List Text
  deriving DecidableEq, Repr

/-- The words make no sense for the command. -/
structure UsageError where
  deriving DecidableEq, Repr

namespace Arguments

/-- The short options in a word: those without a value, and then perhaps one with a value and the
rest of the word. -/
def cluster (specs : List OptionSpec) :
    Text → Except UsageError (List String × Option (String × Text))
  | [] => .ok ([], none)
  | c :: rest =>
    match specs.find? (·.short = some c) with
    | none => .error ⟨⟩
    | some spec =>
      if spec.takesValue then .ok ([], some (spec.long, rest))
      else do
        let (flags, value) ← cluster specs rest
        return (spec.long :: flags, value)

/-- What one word that starts with a hyphen gives: options without or with their values, and
perhaps an option whose value is the next word. -/
def option (specs : List OptionSpec) (word : Text) :
    Except UsageError (List (String × Text) × Option String) :=
  let name := word.upTo '='
  let value? : Option Text := if name.length < word.length then some (word.drop (name.length + 1))
    else none
  match specs.find? (·.long.toList = name), value? with
  | some spec, some value => if spec.takesValue then .ok ([(spec.long, value)], none) else .error ⟨⟩
  | some spec, none =>
    if spec.takesValue then .ok ([], some spec.long) else .ok ([(spec.long, [])], none)
  | none, _ =>
    if ['-', '-'].isPrefixOf word then .error ⟨⟩
    else do
      let (flags, last) ← cluster specs (word.drop 1)
      let given := flags.map fun flag ↦ (flag, ([] : Text))
      match last with
      | none => return (given, none)
      | some (name, []) => return (given, some name)
      | some (name, value) => return (given ++ [(name, value)], none)

/-- Sorts the words of a command line.  If options may not stand after an argument, all words from
the first argument on are arguments. -/
def parse (specs : List OptionSpec) (optionsAfterArguments : Bool) :
    List Text → Except UsageError Arguments
  | [] => .ok ⟨[], []⟩
  | word :: rest =>
    if word = ['-', '-'] then .ok ⟨[], rest⟩
    else if word.head? = some '-' ∧ word ≠ ['-'] then
      match option specs word with
      | .error e => .error e
      | .ok (given, none) => do
        let a ← parse specs optionsAfterArguments rest
        return { a with options := given ++ a.options }
      | .ok (given, some name) =>
        match rest with
        | [] => .error ⟨⟩
        | value :: rest => do
          let a ← parse specs optionsAfterArguments rest
          return { a with options := given ++ (name, value) :: a.options }
    else if optionsAfterArguments then do
      let a ← parse specs optionsAfterArguments rest
      return { a with arguments := word :: a.arguments }
    else .ok ⟨[], word :: rest⟩

/-- Whether an option is given. -/
def has (a : Arguments) (name : String) : Bool := a.options.any (·.1 = name)

/-- The values of an option, in order. -/
def values (a : Arguments) (name : String) : List Text :=
  (a.options.filter (·.1 = name)).map (·.2)

/-- The value of an option; the last one counts. -/
def value? (a : Arguments) (name : String) : Option Text := (a.values name).getLast?

end Arguments

end TemplateAssist
