/-
  The import as a program. The manifest of the files is read from the standard input; the directory
  that holds them is written `/wiki`. The pages go into an empty table.
-/
import Taskbook.Import.Command
import Taskbook.Import.FileTree
import Taskbook.Json.Reader

namespace Taskbook.Import

/-- The program run with arguments and the text of a manifest. -/
def runProgram (arguments : List Text) (manifest : Text) : Except Text Outcome :=
  match Json.read manifest.length manifest with
  | .ok value =>
    let ground : Ground := { shown := "/wiki", name := "wiki", tree := .ofManifest value }
    .ok (runCommand ground arguments 0 (some {}))
  | .error _ => .error "Error: the manifest is not JSON\n"

/-- The exit code of a command; one that breaks off has failed. -/
def Ending.code : Ending → Nat
  | .exit code => code
  | .stopped _ => 1

end Taskbook.Import

open Taskbook Import in
/-- Runs the import. -/
def main (arguments : List String) : IO UInt32 := do
  let input ← (← IO.getStdin).readToEnd
  match runProgram (arguments.map String.toList) input.toList with
  | .ok outcome =>
    IO.print (String.ofList outcome.output)
    IO.eprint (String.ofList outcome.errors)
    pure outcome.ending.code.toUInt32
  | .error message =>
    IO.eprint (String.ofList message)
    pure 1
