import TemplateAssist.Cursor.Context

/-!
# Explaining the word at the cursor

In a block, the word nearest to the cursor is explained if it is a documented filter.
-/

set_option autoImplicit false

namespace TemplateAssist

/-- The documented filters. -/
def filterDocs : List (String × String) :=
  [("default", "Returns a default value if the variable is undefined"),
    ("length", "Returns the length of a sequence or mapping"),
    ("upper", "Converts a string to uppercase"),
    ("lower", "Converts a string to lowercase"),
    ("title", "Converts a string to title case"),
    ("join", "Joins a sequence with a separator"),
    ("replace", "Replaces occurrences of a substring"),
    ("truncate", "Truncates a string to a given length")]

/-- The explanation of a filter. -/
def filterDoc? (word : Text) : Option String :=
  (filterDocs.find? fun entry ↦ entry.1.toList = word).map (·.2)

/-- The word whose characters were read (the last one first) up to `offset`, with its start. -/
def finishedWord (offset : Nat) (read : Text) : List (Nat × Text) :=
  if read.isEmpty then [] else [(offset - read.length, read.reverse)]

/-- The words of the text that is left, which starts at `offset`, each with its start; the
characters in `read` belong to the first one. -/
def wordsFrom (offset : Nat) (read : Text) : Text → List (Nat × Text)
  | [] => finishedWord offset read
  | c :: rest =>
    if isWordChar c then wordsFrom (offset + 1) (c :: read) rest
    else finishedWord offset read ++ wordsFrom (offset + 1) [] rest

/-- How far a word that starts at `start` is from a position; a word that touches it is not far at
all. -/
def wordGap (pos : Int) (start : Nat) (word : Text) : Nat :=
  let stop := start + word.length
  if start ≤ pos ∧ pos ≤ stop then 0 else min (start - pos).natAbs (stop - pos).natAbs

/-- The element with the least measure, the first one if several have it. -/
def leastBy {α : Type} (measure : α → Nat) : List α → Option α
  | [] => none
  | a :: rest =>
    match leastBy measure rest with
    | some b => if measure b < measure a then some b else some a
    | none => some a

/-- The word nearest to a position, of those in a window of `window` characters on each side.  A
word that the window cuts counts with the part inside. -/
def wordNear? (t : Text) (pos window : Int) : Option Text :=
  let start := (max 0 (pos - window)).toNat
  let words := wordsFrom start [] (t.sliceAt start (pos + window))
  (leastBy (fun entry ↦ wordGap pos entry.1 entry.2) words).map (·.2)

/-- The explanation of a word at a position. -/
structure Explanation where
  position : Nat
  text : String
  deriving DecidableEq, Repr

/-- The explanation for the cursor, if it stands in a block near a documented filter. -/
def hover (settings : Settings) (t : Text) (pos : Int) : Option Explanation :=
  let cursor := t.clamp pos
  match t.contextWithin settings cursor with
  | .prose => none
  | _ =>
    ((wordNear? t cursor settings.hoverWindow).bind filterDoc?).map fun text ↦ ⟨cursor, text⟩

end TemplateAssist
