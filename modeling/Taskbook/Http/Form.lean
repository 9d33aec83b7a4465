/-
  Forms in the bodies of requests. The fields of one kind of form stand in a row, as in a query. The
  other kind is made of parts between marks, each with headers of its own; a part is a field or a
  file. Both are read from the bytes of the body, here characters below 256.
-/
import Taskbook.Http.Fields
import Taskbook.Text.Case

namespace Taskbook.Http

/-- What a form gives for a name. -/
inductive FormValue where
  | text (value : Text)
  | file
  deriving DecidableEq, Repr

/-- Names with what a form gives for them, in the order in which they were sent. -/
abbrev Form := List (Text × FormValue)

namespace Form

/-- What a form gives for a name, the last if the name is repeated. -/
def get? (form : Form) (name : Text) : Option FormValue := form.reverse.lookup name

/-- The text of a field; one that is not there is empty. -/
def text (form : Form) (name : Text) : Text :=
  match form.get? name with
  | some (.text value) => value
  | _ => []

end Form

/-- Why a form is not taken. -/
inductive FormFault where
  /-- It cannot be read. -/
  | unreadable
  /-- It lacks something or goes beyond what is taken in, as the message says. -/
  | refused (message : Text)
  deriving DecidableEq, Repr

/-- The most fields of a form, and the most files. -/
def maxFields : Nat := 1000

/-- The most bytes of a field. -/
def maxFieldSize : Nat := 1024 * 1024

/-- There are more fields or more files than are taken in. -/
def tooMany (kind : Text) : FormFault :=
  .refused ("Too many " ++ kind ++ ". Maximum number of " ++ kind ++ " is " ++
    Text.ofNat maxFields ++ ".")

/-- A field or a part is larger than is taken in. -/
def tooLarge (kind : Text) : FormFault :=
  .refused (kind ++ " exceeded maximum size of " ++ Text.ofNat (maxFieldSize / 1024) ++ "KB.")

/-! ## Fields in a row -/

/-- The form whose fields stand in a row. They are taken in one by one, up to the first that is too
    many or too large. -/
def readRow (body : Text) : Except FormFault Form :=
  let fields := writtenFields (byteChars body)
  if (fields.take maxFields).any fun field => maxFieldSize < fieldSize field then
    .error (tooLarge "Field")
  else if maxFields < fields.length then .error (tooMany "fields")
  else .ok ((fields.map readField).map fun field => (field.1, .text field.2))

/-! ## Parameters of headers -/

/-- The pieces of a header between its semicolons. A semicolon between quotes cuts nothing, and a
    quote behind a backslash opens and closes nothing. -/
def cutPieces (quoted : Bool) (piece : Text) : Text → List Text
  | [] => [piece.reverse]
  | '\\' :: '"' :: rest => cutPieces quoted ('"' :: '\\' :: piece) rest
  | c :: rest =>
    if c = ';' && !quoted then piece.reverse :: cutPieces false [] rest
    else cutPieces (if c = '"' then !quoted else quoted) (c :: piece) rest

/-- A quoted text without the backslashes before quotes and backslashes. -/
def unescape : Text → Text
  | '\\' :: c :: rest =>
    if c = '\\' || c = '"' then c :: unescape rest else '\\' :: unescape (c :: rest)
  | c :: rest => c :: unescape rest
  | [] => []

/-- A value without the quotes around it. -/
def unquote (s : Text) : Text :=
  if 2 ≤ s.length && s.head? = some '"' && s.getLast? = some '"' then unescape s.tail.dropLast
  else s

/-- A piece of a header as a parameter. Its name is given in lower case. -/
def readParameter (piece : Text) : Text × Text :=
  let (name, value) := (Text.cut? ['='] piece).getD (piece, [])
  (Text.asciiLower (Text.trim isBlank name), unquote (Text.trim isBlank value))

/-- The parameters behind the value of a header. -/
def parameters (header : Text) : Fields := ((cutPieces false [] header).drop 1).map readParameter

/-! ## Parts -/

/-- A character in the name of a header. -/
def isToken (c : Char) : Bool := isAsciiAlnum c || ("!#$%&'*+-.^_\x60|~" : Text).contains c

/-- The header at the head of a text, with its name in lower case, and what follows it, if the text
    goes on so far. -/
def readHeader (s : Text) : Except FormFault (Option ((Text × Text) × Text)) :=
  let name := s.takeWhile isToken
  match s.dropWhile isToken with
  | [] => .ok none
  | ':' :: rest =>
    let value := rest.dropWhile (· = ' ')
    if name = [] then .error .unreadable
    else
      match value.dropWhile (· ≠ '\r') with
      | '\r' :: '\n' :: after =>
        .ok (some ((Text.asciiLower name, value.takeWhile (· ≠ '\r')), after))
      | '\r' :: _ :: _ => .error .unreadable
      | _ => .ok none
  | _ => .error .unreadable

/-- The headers of a part, at most the given number of them, up to the empty line behind them, and
    what follows it, if the text goes on so far. -/
def readHeaders : Nat → Text → Except FormFault (Option (Fields × Text))
  | 0, _ => .ok none
  | budget + 1, s =>
    match s with
    | '\r' :: '\n' :: rest => .ok (some ([], rest))
    | '\r' :: _ :: _ => .error .unreadable
    | _ => do
      match ← readHeader s with
      | none => .ok none
      | some (header, rest) =>
        return (← readHeaders budget rest).map fun read => (header :: read.1, read.2)

/-- The data of a part, up to the mark behind it, with whether that mark is the last, and what
    follows. -/
def cutData? (mark : Text) : Text → Option (Text × Bool × Text)
  | [] => none
  | c :: rest =>
    match Text.dropPrefix? mark (c :: rest) with
    | some ('\r' :: '\n' :: after) => some ([], false, after)
    | some ('-' :: '-' :: after) => some ([], true, after)
    | _ => (cutData? mark rest).map fun found => (c :: found.1, found.2)

/-- What bytes stand for in a charset: their text if it is UTF-8 and they can be read, and else each
    of them a character. -/
def decodeBytes (charset bytes : Text) : Text :=
  if charset = ("utf-8" : Text) || charset = ("utf8" : Text) then
    (Text.decode (bytes.map fun c => UInt8.ofNat c.toNat)).toOption.getD bytes
  else bytes

/-- The name of a part, and whether the part is a file. -/
def disposition (charset : Text) (headers : Fields) : Except FormFault (Text × Bool) :=
  let options := parameters ((headers.get? "content-disposition").getD [])
  match options.get? "name" with
  | some name => .ok (decodeBytes charset name, (options.get? "filename").isSome)
  | none =>
    .error (.refused "The Content-Disposition header field \"name\" must be provided.")

/-- The parts from the next one on, at most the given number of them, where `fields` and `files`
    were met before. A part that the body ends in is left out. -/
def readParts (mark charset : Text) : Nat → Nat → Nat → Text → Except FormFault Form
  | 0, _, _, _ => .ok []
  | budget + 1, fields, files, s => do
    match ← readHeaders (s.length + 1) s with
    | none => .ok []
    | some (headers, rest) =>
      let (name, isFile) ← disposition charset headers
      let fields := if isFile then fields else fields + 1
      let files := if isFile then files + 1 else files
      if maxFields < fields then .error (tooMany "fields")
      else if maxFields < files then .error (tooMany "files")
      else
        let (data, cut?) : Text × Option (Bool × Text) :=
          match cutData? mark rest with
          | some (data, cut) => (data, some cut)
          | none => (rest, none)
        if !isFile && maxFieldSize < data.length then .error (tooLarge "Part")
        else
          let value : FormValue := if isFile then .file else .text (decodeBytes charset data)
          match cut? with
          | none => .ok []
          | some (true, _) => .ok [(name, value)]
          | some (false, after) =>
            return (name, value) :: (← readParts mark charset budget fields files after)

/-- The form whose parts stand between marks, which the header of the body gives. Line ends may
    stand before the first mark, and anything behind the last one. -/
def readMarked (header body : Text) : Except FormFault Form :=
  match (parameters header).get? "boundary" with
  | none => .error (.refused "Missing boundary in multipart.")
  | some boundary =>
    let charset := Text.asciiLower (((parameters header).get? "charset").getD "utf-8")
    let mark := "\r\n--" ++ boundary
    let text := "\r\n" ++ (byteChars body).dropWhile fun c => c = '\r' || c = '\n'
    match Text.dropPrefix? mark text with
    | some ('\r' :: '\n' :: rest) => readParts mark charset rest.length 0 0 rest
    | some rest =>
      if Text.startsWith "--" rest || Text.startsWith rest "--" || Text.startsWith "\r" rest then
        .ok []
      else .error .unreadable
    | none => if Text.startsWith mark text then .ok [] else .error .unreadable

end Taskbook.Http
