import TemplateAssist.Text.Quoted

/-!
# Files

What stands at a path of the file system, and the text that a file holds.
-/

set_option autoImplicit false

namespace TemplateAssist

/-- What stands at a path. -/
inductive FileEntry where
  | missing
  /-- Something on the way to the path is a file. -/
  | blocked
  /-- The path, or a name on it, is too long for any file. -/
  | nameTooLong
  /-- The path has a character that no path can have. -/
  | unnameable
  | directory
  | file (bytes : ByteArray)

/-- The text that bytes encode in UTF-8. -/
def decodeUtf8? (bytes : ByteArray) : Option Text := (String.fromUTF8? bytes).map String.toList

/-- A text in which every line end is a newline: a carriage return is one, and so are a carriage
return and a newline together. -/
def unifyLineEnds : Text → Text
  | '\r' :: '\n' :: rest => '\n' :: unifyLineEnds rest
  | '\r' :: rest => '\n' :: unifyLineEnds rest
  | c :: rest => c :: unifyLineEnds rest
  | [] => []

/-- The lines of text that bytes encode in UTF-8, each ended by a newline. -/
def readLines? (bytes : ByteArray) : Option Text := (decodeUtf8? bytes).map unifyLineEnds

/-! ## Paths -/

/-- The parts of a path, without empty ones and those that stand for the directory itself. -/
def pathParts (path : Text) : List Text :=
  (path.splitOn '/').filter fun part ↦ part ≠ [] ∧ part ≠ ['.']

/-- A path in its shortest spelling. -/
def normalPath (path : Text) : Text :=
  let parts := ['/'].intercalate (pathParts path)
  if path.head? = some '/' then '/' :: parts
  else if parts.isEmpty then ['.']
  else parts

/-- The last part of a path. -/
def baseName (path : Text) : Text := (pathParts path).getLastD []

/-- The path of a file in a directory. -/
def inDirectory (directory name : Text) : Text := normalPath (directory ++ '/' :: name)

/-- The wording of the error for a name that is too long. -/
def longNameMessage (path : Text) : String :=
  "[Errno 36] File name too long: " ++ String.ofList path.quoted

/-! ## Directories -/

/-- A directory and all files below it, each with the parts of its path.  Nothing is known about
files elsewhere. -/
abbrev FileTree := List (List Text × ByteArray)

/-- The greatest number of bytes that a name can have. -/
def maxNameBytes : Nat := 255

/-- The greatest number of bytes that a path can have. -/
def maxPathBytes : Nat := 4095

/-- The number of bytes that a text takes in UTF-8. -/
def byteLength (t : Text) : Nat := (String.ofList t).utf8ByteSize

namespace FileTree

/-- A place that a walk along a path has reached. -/
inductive Place where
  /-- What the parts of a path lead to, below the directory. -/
  | below (parts : List Text)
  /-- A directory that is not below the directory of the tree. -/
  | elsewhere

/-- What stands at a place. -/
def entryAt (tree : FileTree) : Place → FileEntry
  | .elsewhere => .directory
  | .below parts =>
    match tree.find? (·.1 = parts) with
    | some (_, bytes) => .file bytes
    | none =>
      if parts.isEmpty || tree.any fun (file, _) ↦ parts.isPrefixOf file then .directory
      else .missing

/-- The place that a part of a path leads to from a directory, if there can be one. -/
def step? (part : Text) : Place → Option Place
  | place =>
    if part = [] ∨ part = ['.'] then some place
    else
      match place with
      | .elsewhere => if part = ['.', '.'] then some .elsewhere else none
      | .below parts =>
        if part = ['.', '.'] then some (if parts.isEmpty then .elsewhere else .below parts.dropLast)
        else some (.below (parts ++ [part]))

/-- What stands at the end of the remaining parts of a path.  Everything on the way has to be a
directory. -/
def walk (tree : FileTree) (place : Place) : List Text → FileEntry
  | [] => tree.entryAt place
  | part :: rest =>
    match tree.entryAt place with
    | .directory =>
      if maxNameBytes < byteLength part then .nameTooLong
      else
        match step? part place with
        | some place => tree.walk place rest
        | none => .missing
    | .file _ => .blocked
    | entry => entry

/-- What stands at a path, seen from the directory of the tree. -/
def find (tree : FileTree) (path : Text) : FileEntry :=
  if path.contains '\x00' then .unnameable
  else if path.isEmpty then .missing
  else if maxPathBytes < byteLength path then .nameTooLong
  else tree.walk (if path.head? = some '/' then .elsewhere else .below []) (path.splitOn '/')

end FileTree

end TemplateAssist
