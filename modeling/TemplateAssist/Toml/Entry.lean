import TemplateAssist.Data

/-!
# TOML tables under construction

While a document is read, its tables are built up from headers, `[a.b]` and `[[a.b]]`, and from
assignments, `a.b = 1`.  An `Entry` keeps what is needed to tell whether the next one is allowed:

* a `value` is complete, also if it is an array or an inline table, and nothing can be added to it;
* a `table` may be named by one header only.  It is `declared` once it was, and also after the
  section in which dotted keys reached into it, and dotted keys of later sections may not;
* an array of tables, `tables`, grows by one with each header, and what follows goes into the last
  one.

Each operation gives `none` if what it is asked to do is not allowed.
-/

set_option autoImplicit false

namespace TemplateAssist
namespace Toml

/-- What stands behind a name in a document under construction. -/
inductive Entry where
  | value (d : Data)
  | table (declared : Bool) (fields : List (Text × Entry))
  | tables (earlier : List Data) (last : List (Text × Entry))

/-- The names of a table under construction. -/
abbrev Entries := List (Text × Entry)

mutual

/-- The data that an entry stands for. -/
def Entry.toData : Entry → Data
  | .value d => d
  | .table _ fields => .table (entriesToFields fields)
  | .tables earlier last => .list (earlier ++ [.table (entriesToFields last)])

/-- The fields that entries stand for. -/
def entriesToFields : List (Text × Entry) → List (Text × Data)
  | [] => []
  | (name, entry) :: rest => (name, entry.toData) :: entriesToFields rest

end

/-- Changes the table at the end of a path of headers.  Tables that are missing on the way are
made, and an array of tables leads into its last one. -/
def change? (f : Entries → Option Entries) : List Text → Entries → Option Entries
  | [], entries => f entries
  | name :: path, entries =>
    match entries.lookup name with
    | none => (change? f path []).map fun fields ↦ setField entries name (.table false fields)
    | some (.table declared fields) =>
      (change? f path fields).map fun fields ↦ setField entries name (.table declared fields)
    | some (.tables earlier last) =>
      (change? f path last).map fun fields ↦ setField entries name (.tables earlier fields)
    | some (.value _) => none

/-- Declares the table with a name. -/
def declareTable? (name : Text) (entries : Entries) : Option Entries :=
  match entries.lookup name with
  | none => some (setField entries name (.table true []))
  | some (.table false fields) => some (setField entries name (.table true fields))
  | _ => none

/-- Adds a table to the array of tables with a name. -/
def appendTable? (name : Text) (entries : Entries) : Option Entries :=
  match entries.lookup name with
  | none => some (setField entries name (.tables [] []))
  | some (.tables earlier last) =>
    some (setField entries name (.tables (earlier ++ [.table (entriesToFields last)]) []))
  | _ => none

/-- Gives the variable with a dotted key its value. -/
def assign? (value : Data) : List Text → Entries → Option Entries
  | [], _ => none
  | [name], entries =>
    match entries.lookup name with
    | none => some (setField entries name (.value value))
    | some _ => none
  | name :: path, entries =>
    match entries.lookup name with
    | none => (assign? value path []).map fun fields ↦ setField entries name (.table false fields)
    | some (.table false fields) =>
      (assign? value path fields).map fun fields ↦ setField entries name (.table false fields)
    | _ => none

/-- Declares the tables on the way to a dotted key. -/
def declareAlong : List Text → Entries → Entries
  | [], entries => entries
  | [_], entries => entries
  | name :: path, entries =>
    match entries.lookup name with
    | some (.table _ fields) => setField entries name (.table true (declareAlong path fields))
    | _ => entries

/-! ## Documents -/

/-- A statement of a document. -/
inductive Statement where
  /-- A header that opens a section for a table. -/
  | table (key : List Text)
  /-- A header that opens a section for a new table in an array of tables. -/
  | tables (key : List Text)
  /-- An assignment in the current section. -/
  | assign (key : List Text) (value : Data)

/-- A document of which some statements have been read. -/
structure Document where
  entries : Entries
  /-- The path of the current section. -/
  header : List Text
  /-- The dotted keys of the current section. -/
  dotted : List (List Text)

/-- The document without statements. -/
def Document.empty : Document := ⟨[], [], []⟩

/-- The document at the end of its current section: the tables that dotted keys reached into count
as declared. -/
def Document.endSection (d : Document) : Entries :=
  d.dotted.foldl
    (fun entries key ↦
      (change? (fun es ↦ some (declareAlong key es)) d.header entries).getD entries)
    d.entries

/-- The document after one more statement. -/
def Document.add? (d : Document) : Statement → Option Document
  | .table key =>
    (change? (declareTable? (key.getLastD [])) key.dropLast d.endSection).map (⟨·, key, []⟩)
  | .tables key =>
    (change? (appendTable? (key.getLastD [])) key.dropLast d.endSection).map (⟨·, key, []⟩)
  | .assign key value =>
    (change? (assign? value key) d.header d.entries).map (⟨·, d.header, key :: d.dotted⟩)

/-- The fields of the document that consists of some statements. -/
def build? (statements : List Statement) : Option Fields :=
  (statements.foldlM Document.add? Document.empty).map fun d ↦ entriesToFields d.entries

end Toml
end TemplateAssist
