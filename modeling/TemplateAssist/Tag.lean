import TemplateAssist.Text.Basic

/-!
# Block tags

A statement whose first word is one of the `Tag`s opens a body, and a statement whose first word
is `end` followed by that tag closes it.  `misspellings` lists slips of the keyboard that are
frequent enough to be recognised, with the word that was meant.
-/

set_option autoImplicit false

namespace TemplateAssist

/-- The words that open a body which an end tag has to close. -/
inductive Tag where
  | ifTag
  | forTag
  | blockTag
  | macroTag
  | rawTag
  | withTag
  | filterTag
  | callTag
  | setTag
  | transTag
  | autoescapeTag
  deriving DecidableEq, Repr

namespace Tag

/-- All tags, in the order in which they are listed to a user. -/
def all : List Tag :=
  [ifTag, forTag, blockTag, macroTag, rawTag, withTag, filterTag, callTag, setTag, transTag,
    autoescapeTag]

/-- The word as it is written in a statement. -/
def name : Tag → String
  | ifTag => "if"
  | forTag => "for"
  | blockTag => "block"
  | macroTag => "macro"
  | rawTag => "raw"
  | withTag => "with"
  | filterTag => "filter"
  | callTag => "call"
  | setTag => "set"
  | transTag => "trans"
  | autoescapeTag => "autoescape"

/-- The word that closes the body. -/
def endName (tag : Tag) : String := "end" ++ tag.name

/-- The tag that a word opens. -/
def ofWord? (word : Text) : Option Tag := all.find? fun tag ↦ tag.name.toList = word

/-- The tag that a word closes. -/
def ofEndWord? (word : Text) : Option Tag := all.find? fun tag ↦ tag.endName.toList = word

end Tag

/-- Frequent misspellings of a statement's first word, with what was meant. -/
def misspellings : List (String × String) :=
  [("esle", "else"), ("esli", "elif"), ("fro", "for"), ("ofr", "for"), ("fi", "if"),
    ("endfi", "endif"), ("enffor", "endfor"), ("endofr", "endfor")]

/-- The word that was meant, if `word` is a frequent misspelling. -/
def meantWord? (word : Text) : Option String :=
  (misspellings.find? fun entry ↦ entry.1.toList = word).map (·.2)

end TemplateAssist
