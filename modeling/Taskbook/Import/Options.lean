/-
  The command line of the import: a directory, and options that may be shortened as long as they
  differ from each other.
-/
import Taskbook.Text.Class

namespace Taskbook.Import

/-- What the command line asks for. -/
structure Options where
  directory : Text
  extension : Text := ".markdown"
  overwrite : Bool := false
  dryRun : Bool := false
  deriving DecidableEq, Repr

/-- What a command line comes to. -/
inductive Command where
  | run (options : Options)
  | help
  /-- The command line cannot be understood. -/
  | misuse
  deriving DecidableEq, Repr

/-- The options there are. -/
inductive Flag where
  | help
  | extension
  | overwrite
  | dryRun
  deriving DecidableEq, Repr

/-- The long names of the options. -/
def longNames : List (Text × Flag) :=
  [("--help", .help), ("--extension", .extension), ("--overwrite", .overwrite),
   ("--dry-run", .dryRun)]

/-- What an argument is. -/
inductive Argument where
  | value
  /-- The mark behind which all arguments are values. -/
  | mark
  | flag (flag : Flag) (value : Option Text)
  | unknown
  /-- The head of several options. -/
  | ambiguous
  deriving DecidableEq, Repr

/-- Whether a text is a number behind a minus sign. -/
def isNegative (s : Text) : Bool :=
  match s with
  | '-' :: rest =>
    let digits := rest.dropWhile isDigit
    if digits = [] then rest ≠ []
    else
      match digits with
      | '.' :: fraction => fraction ≠ [] && fraction.all isDigit
      | _ => false
  | _ => false

/-- A name and the value behind an equals sign. -/
def splitValue (s : Text) : Text × Option Text :=
  match Text.cut? ['='] s with
  | some (name, value) => (name, some value)
  | none => (s, none)

/-- The options that an argument may mean, with the value that it gives. -/
def candidates (s : Text) : List (Flag × Option Text) :=
  match s with
  | '-' :: '-' :: _ =>
    let (name, value) := splitValue s
    match longNames.lookup name with
    | some flag => [(flag, value)]
    | none => (longNames.filter fun entry => Text.startsWith entry.1 name).map fun entry =>
        (entry.2, value)
  | ['-', 'h'] => [(.help, none)]
  | '-' :: 'h' :: rest => [(.help, some rest)]
  | _ => []

/-- What an argument is. -/
def classify (s : Text) : Argument :=
  if s = ("--" : Text) then .mark
  else if !Text.startsWith s "-" || s = ['-'] then .value
  else
    match candidates s with
    | [(flag, value)] => .flag flag value
    | _ :: _ :: _ => .ambiguous
    | [] => if isNegative s || s.contains ' ' then .value else .unknown

/-- A command line that is being read. -/
structure Reading where
  directory : Option Text := none
  extension : Text := ".markdown"
  overwrite : Bool := false
  dryRun : Bool := false
  /-- Whether there is an argument that has no meaning. -/
  surplus : Bool := false
  /-- Whether the directory has just been read. -/
  afterDirectory : Bool := false

namespace Reading

/-- One more value: the directory, or one too many. -/
def addValue (reading : Reading) (s : Text) : Reading :=
  match reading.directory with
  | none => { reading with directory := some s, afterDirectory := true }
  | some _ => { reading with surplus := true, afterDirectory := false }

/-- The values behind the mark. A mark that does not stand beside the directory has no meaning. -/
def addValues (reading : Reading) (values : List Text) : Reading :=
  let reading : Reading :=
    if reading.directory.isSome && !reading.afterDirectory then { reading with surplus := true }
    else reading
  values.foldl addValue reading

/-- The command line read to its end. -/
def finish (reading : Reading) : Command :=
  match reading.directory with
  | none => .misuse
  | some directory =>
    if reading.surplus then .misuse
    else
      .run
        { directory, extension := reading.extension, overwrite := reading.overwrite
          dryRun := reading.dryRun }

end Reading

/-- The rest of a command line. Help is given as soon as it is asked for. -/
def readFrom (reading : Reading) : List Text → Command
  | [] => reading.finish
  | argument :: rest =>
    let passed : Reading := { reading with afterDirectory := false }
    match classify argument with
    | .value => readFrom (reading.addValue argument) rest
    | .mark => (reading.addValues rest).finish
    | .unknown => readFrom { passed with surplus := true } rest
    | .ambiguous => .misuse
    | .flag .help none => .help
    | .flag .overwrite none => readFrom { passed with overwrite := true } rest
    | .flag .dryRun none => readFrom { passed with dryRun := true } rest
    | .flag .extension (some value) => readFrom { passed with extension := value } rest
    | .flag .extension none =>
      match rest with
      | [] => .misuse
      | value :: rest =>
        if classify value = .value then readFrom { passed with extension := value } rest else .misuse
    | .flag _ (some _) => .misuse

/-- What a command line asks for. An argument before the mark that may mean several options spoils
    it from the start. -/
def readArguments (arguments : List Text) : Command :=
  if (arguments.takeWhile (· ≠ ("--" : Text))).any fun s => classify s = .ambiguous then .misuse
  else readFrom {} arguments

end Taskbook.Import
