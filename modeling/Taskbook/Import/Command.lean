/-
  The import as a command: its arguments are read, the directory is looked up in a tree of files,
  and its files are imported.
-/
import Taskbook.Import.Run

namespace Taskbook.Import

/-- How a command ends. -/
inductive Ending where
  | exit (code : Nat)
  | stopped (reason : Break)
  deriving DecidableEq, Repr

/-- What a command leaves behind. -/
structure Outcome where
  output : Text := []
  errors : Text := []
  ending : Ending
  table : Option Store

/-- How the command is called. -/
def usage : Text :=
  "usage: import_pages [-h] [--extension EXT] [--overwrite] [--dry-run] wiki_dir\n"

/-- The place that an argument stands for, as the names from the directory above the root, if the
    argument begins with the root. -/
def Ground.place? (ground : Ground) (argument : Text) : Option (List Text) :=
  (Text.dropPrefix? ground.shown argument).bind fun rest =>
    if rest = [] || Text.startsWith rest "/" then
      some (FileTree.resolve [ground.name] (Text.splitOn ['/'] rest))
    else none

/-- A command run with options. -/
def runOptions (ground : Ground) (options : Options) (now : Nat) (table : Option Store) :
    Outcome :=
  let refuse (shown : Text) : Outcome :=
    { errors := "Error: not a directory: " ++ shown ++ ['\n'], ending := .exit 1, table }
  match ground.place? options.directory with
  | none => refuse options.directory
  | some place =>
    if ((ground.whole.find? place).map FileTree.isDirectory).getD false then
      let report :=
        match candidatesIn? ground place options.extension with
        | some files => importFiles options now table files
        | none => { table, stopped := some .badPattern }
      { output := report.output
        ending := (report.stopped.map Ending.stopped).getD (.exit 0)
        table := report.table }
    else refuse (ground.write place)

/-- A command run with arguments. -/
def runCommand (ground : Ground) (arguments : List Text) (now : Nat) (table : Option Store) :
    Outcome :=
  match readArguments arguments with
  | .help => { output := usage, ending := .exit 0, table }
  | .misuse => { errors := usage, ending := .exit 2, table }
  | .run options => runOptions ground options now table

end Taskbook.Import
