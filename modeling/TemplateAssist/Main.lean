import Std.Time
import TemplateAssist.CommandLine.Run

/-!
# The command line program

Looks at the files that a command needs, runs the command, and prints what it gives.
-/

set_option autoImplicit false

namespace TemplateAssist

/-- What stands at a path of the file system. -/
def lookAt (path : Text) : IO FileEntry := do
  let name := String.ofList path
  try
    return .file (← IO.FS.readBinFile name)
  catch _ =>
    try
      let _ ← IO.FS.Handle.mk name .read
      return .directory
    catch
      | .noFileOrDirectory .. => return .missing
      | .inappropriateType .. => return .blocked
      | .invalidArgument .. => return .nameTooLong
      | _ => return .missing

/-- The date of today. -/
def today : IO Date := do
  let now ← Std.Time.PlainDate.now
  return ⟨now.year.toInt.toNat, now.month.val.toNat, now.day.val.toNat⟩

/-- Prints the outcome of a command, and gives the exit code. -/
def report : Outcome → IO UInt32
  | .exit code output => do
    IO.print (String.ofList output)
    return code.toUInt32
  | .broken (.settings cause) => do
    IO.eprintln cause.message
    return 1
  | .broken .unnameable => do
    IO.eprintln VariablesError.unnameable.message
    return 1
  | .broken (.markup cause) => do
    IO.eprintln (String.ofList cause.place)
    return 1

end TemplateAssist

open TemplateAssist in
/-- Runs the command that the words of the command line give. -/
def main (args : List String) : IO UInt32 := do
  match Command.parse (args.map String.toList) with
  | .error _ => report .usage
  | .ok command =>
    let entries ← command.paths.mapM fun path ↦ do return (path, ← lookAt path)
    let lookup (path : Text) : FileEntry := (entries.lookup path).getD .missing
    report (command.run lookup (← today))
