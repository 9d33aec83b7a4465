/-
  The import of files as pages. Files are taken in the order of the lower case of their names. A
  file that cannot be read or has no proper name is reported and passed over; all pages are
  committed together at the end. A dry run reports what would be done and writes nothing, nor does
  it make the table of pages where there is none.
-/
import Taskbook.Import.Options
import Taskbook.Import.Search
import Taskbook.PageName.Title
import Taskbook.Store.Basic
import Taskbook.Text.Lines

namespace Taskbook.Import

/-- A file to be imported. -/
structure Candidate where
  /-- The path as it is shown. -/
  path : Text
  fileName : Text
  tree : FileTree

/-- The name of the page that a file becomes. -/
def pageName (extension fileName : Text) : Text :=
  if extension = [] then [] else fileName.take (fileName.length - extension.length)

/-- A tree of files and where it stands. -/
structure Ground where
  /-- How its root is written. -/
  shown : Text
  /-- The name of its root in the directory above. -/
  name : Text
  tree : FileTree

/-- The tree in the directory above it. -/
def Ground.whole (ground : Ground) : FileTree := .directory [(ground.name, ground.tree)]

/-- A way from the directory above as it is shown. -/
def Ground.write (ground : Ground) (way : List Text) : Text :=
  let below (names : List Text) : Text := names.flatMap fun name => '/' :: name
  match way with
  | [] => ground.shown ++ below [['.', '.']]
  | name :: rest =>
    if name = ground.name then ground.shown ++ below rest
    else ground.shown ++ below (['.', '.'] :: way)

/-- The files below a place with the given extension, in the order in which they are taken, unless
    the extension has no meaning. -/
def candidatesIn? (ground : Ground) (place : List Text) (extension : Text) :
    Option (List Candidate) :=
  (ground.whole.search? place ('*' :: extension)).map fun found =>
    (found.map fun one =>
      ({ path := ground.write one.way, fileName := one.way.getLast?.getD []
         tree := one.tree } : Candidate)).mergeSort fun a b =>
      Text.le a.fileName.lower b.fileName.lower

/-- The content of a file, each line ended by a line feed, or why it cannot be read. -/
def Candidate.content (candidate : Candidate) : Except Text Text :=
  match candidate.tree with
  | .directory _ => .error ("[Errno 21] Is a directory: " ++ Text.quoted candidate.path)
  | .file bytes =>
    match Text.decode bytes with
    | .ok text => .ok (Text.unixNewlines text)
    | .error fault => .error fault.message

/-- How many files came to what. -/
structure Counts where
  created : Nat := 0
  updated : Nat := 0
  skipped : Nat := 0
  errors : Nat := 0
  deriving DecidableEq, Repr

/-- One more page created, or updated if it was there. -/
def Counts.addPage (counts : Counts) (existing : Bool) : Counts :=
  if existing then { counts with updated := counts.updated + 1 }
  else { counts with created := counts.created + 1 }

/-- One more error. -/
def Counts.addError (counts : Counts) : Counts := { counts with errors := counts.errors + 1 }

/-- The counts in words. -/
def Counts.summary (counts : Counts) : Text :=
  "\nImport complete: " ++ Text.ofNat counts.created ++ " created, " ++
    Text.ofNat counts.updated ++ " updated, " ++ Text.ofNat counts.skipped ++
    " skipped (already exist), " ++ Text.ofNat counts.errors ++ " errors.\n"

/-- An import under way. -/
structure Progress where
  store : Store
  counts : Counts := {}
  output : Text := []

/-- One more line of output. -/
def Progress.say (progress : Progress) (line : Text) : Progress :=
  { progress with output := progress.output ++ line ++ ['\n'] }

/-- A file that is written to the store, or reported if it cannot be read. -/
def Progress.write (progress : Progress) (now : Nat) (candidate : Candidate) (name : Text)
    (existing : Bool) : Progress :=
  match candidate.content with
  | .ok content =>
    { progress with
      store := (progress.store.save now name content).1
      counts := progress.counts.addPage existing }
  | .error reason =>
    { progress.say ("  [!] Error importing '" ++ name ++ "': " ++ reason) with
      counts := progress.counts.addError }

/-- A file without a proper name. -/
def Progress.refuse (progress : Progress) (candidate : Candidate) : Progress :=
  { progress.say ("  [!] Skipping '" ++ candidate.path ++ "': not a valid page name") with
    counts := progress.counts.addError }

/-- A file with a proper name. -/
def Progress.take (progress : Progress) (options : Options) (now : Nat) (candidate : Candidate)
    (name : Text) : Progress :=
  let existing := (progress.store.find? name).isSome
  if existing && !options.overwrite then
    { progress with counts := { progress.counts with skipped := progress.counts.skipped + 1 } }
  else
    let word : Text := if existing then "update" else "create"
    let progress := progress.say ("  " ++ word ++ " " ++ name)
    if options.dryRun then { progress with counts := progress.counts.addPage existing }
    else progress.write now candidate name existing

/-- One file after another. -/
def Progress.next (options : Options) (now : Nat) (progress : Progress) (candidate : Candidate) :
    Progress :=
  let name := pageName options.extension candidate.fileName
  if PageName.accepted name then progress.take options now candidate name
  else progress.refuse candidate

/-- Why an import breaks off. -/
inductive Break where
  /-- The extension has two stars within a name. -/
  | badPattern
  /-- A page was looked for and there is no table. -/
  | noTable
  deriving DecidableEq, Repr

/-- A break in words, where it has any of its own. -/
def Break.message? : Break → Option Text
  | .badPattern => some "Invalid pattern: '**' can only be an entire path component"
  | .noTable => none

/-- What an import comes to. -/
structure Report where
  output : Text := []
  /-- The table of pages, if there is one. -/
  table : Option Store
  /-- Why it broke off, if it did. -/
  stopped : Option Break := none

/-- Whether a file has a proper name. -/
def Candidate.accepted (options : Options) (candidate : Candidate) : Bool :=
  PageName.accepted (pageName options.extension candidate.fileName)

/-- Files imported into a table of pages. -/
def importInto (options : Options) (now : Nat) (store : Store) (files : List Candidate) : Report :=
  let last := files.foldl (Progress.next options now) { store }
  { output := last.output ++ last.counts.summary
    table := some (if options.dryRun then store else last.store.commit) }

/-- A dry run without a table of pages. It breaks off at the first file with a proper name. -/
def tryWithoutTable (options : Options) (files : List Candidate) : Report :=
  let refused := files.takeWhile fun candidate => !candidate.accepted options
  let last := refused.foldl Progress.refuse { store := {} }
  if refused.length < files.length then { output := last.output, table := none, stopped := some .noTable }
  else { output := last.output ++ last.counts.summary, table := none }

/-- Files imported; the table of pages is made if there is none. -/
def importFiles (options : Options) (now : Nat) (table : Option Store) (files : List Candidate) :
    Report :=
  match table with
  | some store => importInto options now store files
  | none =>
    if options.dryRun then tryWithoutTable options files else importInto options now {} files

end Taskbook.Import
