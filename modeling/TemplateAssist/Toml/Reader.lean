import TemplateAssist.Toml.Entry
import TemplateAssist.Toml.Scalar

/-!
# Reading TOML

A document is read statement by statement, and the statements are then put together by
`Toml.build?`.  Values may hold others and there may be many statements, so the recursions are on
a bound for the number of parts; there are no more than two for each character.
-/

set_option autoImplicit false

namespace TemplateAssist
namespace Toml

/-! ## Keys -/

/-- Whether a character can be part of a key without quotes. -/
def isBareKeyChar (c : Char) : Bool := c.isAlphanum || c == '-' || c == '_'

/-- The part of a key at the start of a text. -/
def keyPart? (t : Text) : Option (Text × Text) :=
  match t with
  | '"' :: rest => basic? false [] 0 rest
  | '\'' :: rest => literalLine? rest
  | _ =>
    let bare := t.takeWhile isBareKeyChar
    if bare.isEmpty then none else some (bare, t.drop bare.length)

/-- The dotted key at the start of a text; white space may stand around its parts. -/
def key? : Nat → Text → Option (List Text × Text)
  | 0, _ => none
  | bound + 1, t =>
    match keyPart? (skipSpace t) with
    | none => none
    | some (part, rest) =>
      match skipSpace rest with
      | '.' :: rest => (key? bound rest).map fun (parts, rest) ↦ (part :: parts, rest)
      | rest => some ([part], rest)

/-! ## Values -/

/-- The text after the comment at its start, if there is one. -/
def skipComment? (t : Text) : Option Text :=
  match t with
  | '#' :: rest =>
    let comment := rest.takeWhile (· ≠ '\n')
    if comment.any isControl then none else some (rest.drop comment.length)
  | _ => some t

/-- The text after any white space, newlines and comments at its start. -/
def skipFiller? : Nat → Text → Option Text
  | 0, t => some t
  | bound + 1, t =>
    match skipLines t with
    | '#' :: rest => (skipComment? ('#' :: rest)).bind (skipFiller? bound)
    | rest => some rest

mutual

/-- The value at the start of a text. -/
def value? : Nat → Text → Except DataFault (Data × Text)
  | 0, _ => .error .malformed
  | bound + 1, t =>
    match t with
    | '[' :: rest =>
      match skipFiller? bound rest with
      | some (']' :: rest) => .ok (.list [], rest)
      | some rest => (items? bound rest).map fun (items, rest) ↦ (.list items, rest)
      | none => .error .malformed
    | '{' :: rest =>
      match skipSpace rest with
      | '}' :: rest => .ok (.table [], rest)
      | rest => (inline? bound [] rest).map fun (fields, rest) ↦ (.table fields, rest)
    | _ => scalar? t

/-- The remaining items of an array, at least one, and the closing bracket.  A comma may stand
before the bracket. -/
def items? : Nat → Text → Except DataFault (List Data × Text)
  | 0, _ => .error .malformed
  | bound + 1, t =>
    match value? bound t with
    | .error fault => .error fault
    | .ok (value, rest) =>
      match skipFiller? bound rest with
      | some (']' :: rest) => .ok ([value], rest)
      | some (',' :: rest) =>
        match skipFiller? bound rest with
        | some (']' :: rest) => .ok ([value], rest)
        | some rest => (items? bound rest).map fun (values, rest) ↦ (value :: values, rest)
        | none => .error .malformed
      | _ => .error .malformed

/-- The remaining assignments of an inline table, at least one, and the closing brace. -/
def inline? : Nat → Entries → Text → Except DataFault (Fields × Text)
  | 0, _, _ => .error .malformed
  | bound + 1, entries, t =>
    match assignment? bound t with
    | .error fault => .error fault
    | .ok (key, value, rest) =>
      match assign? value key entries, skipSpace rest with
      | some entries, '}' :: rest => .ok (entriesToFields entries, rest)
      | some entries, ',' :: rest => inline? bound entries (skipSpace rest)
      | _, _ => .error .malformed

/-- The assignment at the start of a text. -/
def assignment? : Nat → Text → Except DataFault (List Text × Data × Text)
  | 0, _ => .error .malformed
  | bound + 1, t =>
    match key? bound t with
    | some (key, '=' :: rest) =>
      (value? bound (skipSpace rest)).map fun (value, rest) ↦ (key, value, rest)
    | _ => .error .malformed

end

/-! ## Documents -/

/-- The statement at the start of a text. -/
def statement? (bound : Nat) (t : Text) : Except DataFault (Statement × Text) :=
  match t with
  | '[' :: '[' :: rest =>
    match key? bound rest with
    | some (key, ']' :: ']' :: rest) => .ok (.tables key, rest)
    | _ => .error .malformed
  | '[' :: rest =>
    match key? bound rest with
    | some (key, ']' :: rest) => .ok (.table key, rest)
    | _ => .error .malformed
  | _ => (assignment? bound t).map fun (key, value, rest) ↦ (.assign key value, rest)

/-- The statements of a document, each on a line of its own, up to the first fault. -/
def statements : Nat → Text → List Statement × Option DataFault
  | 0, _ => ([], some .malformed)
  | bound + 1, t =>
    match skipSpace t with
    | [] => ([], none)
    | '\n' :: rest => statements bound rest
    | '#' :: rest =>
      match skipComment? ('#' :: rest) with
      | some rest => statements bound rest
      | none => ([], some .malformed)
    | rest =>
      match statement? bound rest with
      | .error fault => ([], some fault)
      | .ok (statement, rest) =>
        match skipComment? (skipSpace rest) with
        | some [] => ([statement], none)
        | some ('\n' :: rest) =>
          let (others, fault) := statements bound rest
          (statement :: others, fault)
        | _ => ([statement], some .malformed)

/-- A text in which a carriage return and a newline are a newline. -/
def joinLineEnds : Text → Text
  | '\r' :: '\n' :: rest => '\n' :: joinLineEnds rest
  | c :: rest => c :: joinLineEnds rest
  | [] => []

/-- The top-level fields of a document.  Statements that do not go together are a fault that comes
before those of later statements. -/
def read? (document : Text) : Except DataFault Fields :=
  let t := joinLineEnds document
  let (list, fault) := statements (2 * t.length + 4) t
  match build? list, fault with
  | none, _ => .error .malformed
  | some _, some fault => .error fault
  | some fields, none => .ok fields

end Toml
end TemplateAssist
