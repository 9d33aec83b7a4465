/-
  Where the store is kept: addresses of databases, the engine they are opened with, and the
  directories that a database file needs. The directories are made before the engine is looked for.
-/
import Taskbook.Http.Fields
import Taskbook.Number.Numeral
import Taskbook.Store.Backend
import Taskbook.Text.Case
import Taskbook.Text.Quoted

namespace Taskbook

/-- The address of a database. -/
structure StoreLocation where
  /-- The kind of database. -/
  backend : Text
  /-- The program that speaks to it, if one is named. -/
  driver : Option Text
  /-- Whether a user, a host or a port is named. -/
  remote : Bool
  database : Option Text
  /-- What is asked of the engine, by names with values. -/
  options : Http.Fields
  deriving DecidableEq, Repr

/-- Why a store cannot be opened. -/
inductive LocationFault where
  /-- The address cannot be read. -/
  | unreadable
  /-- What should be a whole number is none. -/
  | noNumber (value : Text)
  /-- What should be a whole number has too many digits. -/
  | longNumber (digits : Nat)
  /-- What should be a number of seconds is none. -/
  | noSeconds (value : Text)
  /-- What should say yes or no says neither. -/
  | noFlag (value : Text)
  /-- An option that should be one number has several values. -/
  | manyValues
  /-- Options are to go into the address of a file, but there is none. -/
  | noFile
  /-- The name of a directory holds a null character. -/
  | nullCharacter
  /-- The name of a directory is too long. -/
  | longName
  /-- The address names more than a kind of database and a driver. -/
  | manyNames
  /-- There is no such kind of database, driver or extension. -/
  | unknown
  /-- What is named as a driver is none. -/
  | noDriver
  /-- The driver is not there. -/
  | missing
  /-- The driver makes its callers wait. -/
  | blocking
  deriving DecidableEq, Repr

/-- What is said of a fault in the value of an address. -/
def LocationFault.message? : LocationFault → Option Text
  | .noNumber value =>
    some ("invalid literal for int() with base 10: " ++ (Text.quoted value).take 200)
  | .longNumber digits =>
    some ("Exceeds the limit (" ++ Text.ofNat Whole.maxDigits ++
      " digits) for integer string conversion: value has " ++ Text.ofNat digits ++
      " digits; use sys.set_int_max_str_digits() to increase the limit")
  | .noSeconds value => some ("could not convert string to float: " ++ Text.quoted value)
  | .noFlag value => some ("String is not true/false: " ++ Text.quoted value)
  | .nullCharacter => some "embedded null byte"
  | .manyNames => some "too many values to unpack (expected 2)"
  | _ => none

/-- The whole number that a text stands for. -/
def readWhole (s : Text) : Except LocationFault Int :=
  match Whole.read s with
  | .ok n => .ok n
  | .error .noNumber => .error (.noNumber s)
  | .error (.tooLong digits) => .error (.longNumber digits)

/-- What an option of a file asks for. -/
inductive OptionKind where
  | flag
  | seconds
  | whole
  | text
  deriving DecidableEq, Repr

/-- Reads a value of an option and says whether it is a yes. -/
def OptionKind.read (kind : OptionKind) (value : Text) : Except LocationFault Bool :=
  match kind with
  | .flag =>
    let word := (Text.trim isBlank value).lower
    match Text.flag? word with
    | some answer => .ok answer
    | none => .error (.noFlag word)
  | .seconds =>
    if (Binary64.readFree? value).isSome then .ok false else .error (.noSeconds value)
  | .whole => (readWhole value).map fun _ => false
  | .text => .ok false

/-- Reads the values of an option and says whether they are a yes. Several values together are a
    yes, and they are a text, but no number. -/
def OptionKind.readAll (kind : OptionKind) : List Text → Except LocationFault Bool
  | [] => .ok false
  | [value] => kind.read value
  | _ =>
    match kind with
    | .flag => .ok true
    | .text => .ok false
    | .seconds | .whole => .error .manyValues

namespace StoreLocation

/-- A character of the name in front of an address. -/
def isSchemeName (c : Char) : Bool := isWord c || c = '+'

/-- What names a user and a password, and what follows: a name up to a colon and a password up to
    the next at sign, or else a name up to the last at sign before a colon or slash. -/
def cutUser (s : Text) : Option (Text × Text) × Text :=
  let inName (c : Char) : Bool := c ≠ ':' && c ≠ '/'
  let name := s.takeWhile inName
  let secret : Option (Text × Text) :=
    match s.dropWhile inName with
    | ':' :: rest => Text.cut? ['@'] rest
    | _ => none
  match secret with
  | some (password, rest) => (some (name, password), rest)
  | none =>
    match Text.cut? ['@'] name.reverse with
    | some (_, before) => (some (before.reverse, []), s.drop (before.length + 1))
    | none => (none, s)

/-- What names a host, in brackets or not, and what follows. -/
def cutHost (s : Text) : Text × Text :=
  let run := s.takeWhile fun c => c ≠ '/' && c ≠ '?'
  match run, Text.cut? [']'] run.reverse with
  | '[' :: _, some (_, before) =>
    if 2 ≤ before.length then (before.reverse, s.drop (before.length + 1))
    else (run.takeWhile (· ≠ ':'), s.drop (run.takeWhile (· ≠ ':')).length)
  | _, _ => (run.takeWhile (· ≠ ':'), s.drop (run.takeWhile (· ≠ ':')).length)

/-- The port behind a host, if one is named, and what follows. -/
def cutPort (s : Text) : Except LocationFault (Option Int × Text) :=
  match s with
  | ':' :: rest =>
    let port := rest.takeWhile fun c => c ≠ '/' && c ≠ '?'
    (readWhole port).map fun n => (some n, rest.drop port.length)
  | _ => .ok (none, s)

/-- The options behind a question mark, up to the end of the line. One without a value does not
    count. -/
def readOptions (s : Text) : Http.Fields :=
  match s with
  | '?' :: query => (Http.readQuery (query.takeWhile (· ≠ '\n'))).filter fun field => field.2 ≠ []
  | _ => []

/-- The address that a text stands for. Behind the scheme stands what names a user, a host and a
    port, then a slash and the database, percent coded, then a question mark and the options. -/
def ofText (s : Text) : Except LocationFault StoreLocation := do
  let scheme := s.takeWhile isSchemeName
  match Text.dropPrefix? "://" (s.dropWhile isSchemeName) with
  | none => .error .unreadable
  | some rest =>
    if scheme = [] then .error .unreadable
    else
      let (user, rest) := cutUser rest
      let (host, rest) := cutHost rest
      let (port, rest) ← cutPort rest
      let (database, rest) : Option Text × Text :=
        match rest with
        | '/' :: path =>
          (some (Text.percentDecode (path.takeWhile (· ≠ '?'))), path.dropWhile (· ≠ '?'))
        | _ => (none, rest)
      let (backend, driver) : Text × Option Text :=
        match Text.cut? ['+'] scheme with
        | some (backend, driver) => (backend, some driver)
        | none => (scheme, none)
      let remote := user.any (fun (name, password) => name ≠ [] || password ≠ []) || host ≠ [] ||
        port.any (· ≠ 0)
      pure { backend, driver, remote, database, options := readOptions rest }

/-- The database, if it is a file. -/
def file? (location : StoreLocation) : Option Text :=
  if location.backend = Backend.sqlite.name then
    location.database.filter fun path => path ≠ [] && path ≠ (":memory:" : Text)
  else none

/-- The parts of a path that are names. -/
def pathParts (path : Text) : List Text :=
  (Text.splitOn ['/'] path).filter fun part => part ≠ [] && part ≠ ['.']

/-- The most bytes in the name of a directory. -/
def maxName : Nat := 255

/-- The most bytes in a path to a directory. -/
def maxPath : Nat := 4095

/-- Whether the directory of a file can be made. -/
def checkDirectory (path : Text) : Except LocationFault Unit :=
  let outer := (pathParts path).dropLast
  if outer.any fun part => part.contains (Char.ofNat 0) then .error .nullCharacter
  else if outer.any fun part => maxName < (Text.encode part).length then .error .longName
  else if maxPath < (Text.encode (Text.join ['/'] outer)).length then .error .longName
  else .ok ()

/-- The values of an option. -/
def valuesOf (location : StoreLocation) (name : Text) : List Text :=
  (location.options.filter fun field => field.1 = name).map (·.2)

/-- Options of the engine for files, in the order in which they are read. -/
def fileOptions : List (Text × OptionKind) :=
  [("uri", .flag), ("timeout", .seconds), ("isolation_level", .text), ("detect_types", .whole),
   ("check_same_thread", .flag), ("cached_statements", .whole)]

/-- Names of options that ask for extensions. -/
def extensionNames : List Text := ["plugin", "plugins"]

/-- Whether the engine for files takes the options. All other options go into the address of the
    file if it is asked to be one, and then there has to be a file. -/
def checkOptions (location : StoreLocation) : Except LocationFault Unit := do
  let flags ← fileOptions.mapM fun (name, kind) => kind.readAll (location.valuesOf name)
  let names := fileOptions.map (·.1) ++ extensionNames
  if flags.head? = some true && location.database.isNone &&
      location.options.any fun field => !names.contains field.1 then .error .noFile
  else .ok ()

/-- Whether there is an engine for the address. Extensions are looked for first, and there are none. -/
def checkEngine (location : StoreLocation) : Except LocationFault Unit :=
  let name : Text := location.driver.getD "base"
  if location.valuesOf "plugin" ≠ [] then .error .unknown
  else if name.contains '+' then .error .manyNames
  else
    match Backend.ofName? location.backend with
    | none => .error .unknown
    | some backend =>
      match backend.find? name with
      | none => .error .unknown
      | some .part => .error .noDriver
      | some .driver =>
        if backend ≠ Backend.sqlite || name = ("pysqlcipher" : Text) then .error .missing
        else if location.remote then .error .unreadable
        else do
          location.checkOptions
          if name = ("aiosqlite" : Text) then .ok () else .error .blocking

/-- Whether a store can be opened at the address. -/
def check (location : StoreLocation) : Except LocationFault Unit := do
  (location.file?.map checkDirectory).getD (.ok ())
  location.checkEngine

/-- The directories passed through on the way along the parts of a path. The way there so far is
    given by its parts, the last one first, and `none` is a place outside. -/
def passed (here : Option (List Text)) : List Text → List (List Text)
  | [] => []
  | part :: rest =>
    match here with
    | none => []
    | some here =>
      if part = ("..": Text) then
        passed (match here with | [] => none | _ :: outer => some outer) rest
      else (part :: here) :: passed (some (part :: here)) rest

/-- The directories below `root` that have to be there for a file, by their paths from `root`.
    Slashes before the root or behind the file do not count. -/
def directories (root path : Text) : List Text :=
  match Text.dropPrefix? (root ++ ['/']) (path.dropWhile (· = '/')) with
  | none => []
  | some rest =>
    let ways := passed (some []) (pathParts rest).dropLast
    (ways.map fun parts => Text.join ['/'] parts.reverse).eraseDups

end StoreLocation

end Taskbook
