/-
  HTML within documents: the marks that open an HTML block, where such a block ends, and the tags,
  comments, declarations and sections that may stand within a line.
-/
import Taskbook.Markdown.Line
import Taskbook.Text.Case

namespace Taskbook.Markdown

/-- Elements whose tags open a block that goes on to the next empty line. -/
def blockElements : List Text :=
  Text.words <| String.toList
    "address article aside base basefont blockquote body caption center col colgroup dd details
    dialog dir div dl dt fieldset figcaption figure footer form frame frameset h1 h2 h3 h4 h5 h6
    head header hr html iframe legend li link main menu menuitem meta nav noframes ol optgroup
    option p param section source summary table tbody td tfoot th thead title tr track ul"

/-- Elements whose block goes on to their closing tag. -/
def verbatimElements : List Text := ["pre", "script", "style", "textarea"]

/-- The name of an element at the head of a text, and what follows it. -/
def readElementName? (s : Text) : Option (Text × Text) :=
  match s with
  | c :: _ =>
    if isAsciiLetter c then
      let inName (d : Char) : Bool := isAsciiAlnum d || d = '-'
      some (s.takeWhile inName, s.dropWhile inName)
    else none
  | [] => none

/-- The mark that opens a piece of HTML. -/
inductive HtmlMark where
  | comment
  | instruction
  | declaration
  | characterData
  | openTag (name : Text)
  | closeTag (name : Text)

/-- The mark at the head of a text, and what follows it. -/
def htmlMark? (s : Text) : Option (HtmlMark × Text) :=
  match s with
  | '<' :: '/' :: rest => (readElementName? rest).map fun read => (.closeTag read.1, read.2)
  | '<' :: '?' :: rest => some (.instruction, rest)
  | '<' :: '!' :: rest =>
    match Text.dropPrefix? "--" rest with
    | some after => some (.comment, after)
    | none =>
      match Text.dropPrefix? "[CDATA[" rest with
      | some after => some (.characterData, after)
      | none =>
        match rest with
        | c :: after => if isCapital c then some (.declaration, after) else none
        | [] => none
  | '<' :: rest => (readElementName? rest).map fun read => (.openTag read.1, read.2)
  | _ => none

/-- Whether a mark may end a quotation or a list item. The name of a tag has to be one of the known
    elements, in small letters and followed by a gap or the end of the line. -/
def HtmlMark.interrupts (mark : HtmlMark) (after : Text) : Bool :=
  match mark with
  | .openTag name | .closeTag name =>
    (blockElements.contains name || verbatimElements.contains name) &&
      after.head?.all fun c => isGap c || c = '\n'
  | _ => true

/-- What follows the end of a value without quotes, the longest value first. -/
def afterBareValue (s : Text) : List Text :=
  let inValue (c : Char) : Bool :=
    !(c = ' ' || c = '!' || c = '"' || c = '\'' || c = '=' || c = '<' || c = '>' || c = '\x60')
  ends (s.takeWhile inValue) (s.dropWhile inValue)
where
  /-- The places behind the first character of `value` at which a value may end. -/
  ends (value after : Text) : List Text :=
    match value with
    | [] => []
    | _ :: rest => later rest after
  later (rest after : Text) : List Text :=
    match rest with
    | [] => [after]
    | c :: more => later more after ++ if isBlank c then [c :: more ++ after] else []

/-- What follows the value of an attribute, one text for each way to read it. -/
def afterValue (s : Text) : List Text :=
  match s with
  | '\'' :: rest =>
    match rest.dropWhile (· ≠ '\'') with
    | _ :: after => [after]
    | [] => []
  | '"' :: rest =>
    match rest.dropWhile (· ≠ '"') with
    | _ :: after => [after]
    | [] => []
  | _ => afterBareValue s

/-- What follows one attribute and the blanks before it, one text for each way to read it. -/
def afterAttribute (s : Text) : List Text :=
  match s with
  | b :: _ =>
    if !isBlank b then []
    else
      match s.dropWhile isBlank with
      | c :: rest =>
        if isAsciiLetter c || c = '_' || c = ':' then
          let after := rest.dropWhile fun d =>
            isAsciiAlnum d || d = '_' || d = '.' || d = ':' || d = '-'
          (match after.dropWhile isBlank with
            | '=' :: value => afterValue (value.dropWhile isBlank)
            | _ => []) ++ [after]
        else []
      | [] => []
  | [] => []

/-- What follows any number of attributes, as many as possible first. -/
def afterAttributes : Nat → Text → List Text
  | 0, s => [s]
  | n + 1, s => (afterAttribute s).flatMap (afterAttributes n) ++ [s]

/-- Whether the rest of a line closes a tag, its attributes left aside. -/
def closesLine (s : Text) : Bool :=
  match s.dropWhile isGap with
  | '>' :: rest => rest.all isGap
  | _ => false

/-- Whether a mark opens a block of HTML by itself. Tags of other elements than the known ones, and
    closing tags of elements whose block goes on to them, have to stand alone on their line. -/
def HtmlMark.opens (mark : HtmlMark) (after : Text) : Bool :=
  let line := after.takeWhile (· ≠ '\n')
  match mark with
  | .openTag name =>
    let name := Text.asciiLower name
    blockElements.contains name || verbatimElements.contains name ||
      (afterAttributes line.length line).any closesLine
  | .closeTag name => blockElements.contains (Text.asciiLower name) || closesLine line
  | _ => true

/-- What follows a comment, behind its opening mark. The marks may share hyphens. -/
def afterComment? (s : Text) : Option Text :=
  match s with
  | '>' :: after => some after
  | '-' :: '>' :: after => some after
  | _ => (Text.cut? "-->" s).map (·.2)

/-- What follows a declaration within a line, behind the first letter of its name. The name is of
    capitals, and a blank stands behind it. -/
def afterDeclaration? (s : Text) : Option Text :=
  let rest := s.dropWhile isCapital
  if rest.head?.any isBlank then (Text.cut? ">" rest).map (·.2) else none

/-- What follows the piece of HTML at the head of a text. -/
def afterInlineHtml? (s : Text) : Option Text :=
  match htmlMark? s with
  | none => none
  | some (.comment, rest) => afterComment? rest
  | some (.instruction, rest) => (Text.cut? "?>" rest).map (·.2)
  | some (.declaration, rest) => afterDeclaration? rest
  | some (.characterData, rest) => (Text.cut? "]]>" rest).map (·.2)
  | some (.closeTag _, rest) =>
    match rest.dropWhile isBlank with
    | '>' :: after => some after
    | _ => none
  | some (.openTag _, rest) =>
    (afterAttributes rest.length rest).findSome? fun after =>
      match after.dropWhile isBlank with
      | '>' :: rest => some rest
      | '/' :: '>' :: rest => some rest
      | _ => none

end Taskbook.Markdown
