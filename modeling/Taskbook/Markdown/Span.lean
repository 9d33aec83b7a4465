/-
  Spans read from the text of a block. The text is read once from its head to its end. Code,
  addresses and pieces of HTML are read where they begin; a closing bracket makes a link of what
  follows the nearest open bracket, if a target follows it; emphasis is read when the text, or the
  text of a link, is complete. A mark that comes to nothing is text.
-/
import Taskbook.Markdown.Address
import Taskbook.Markdown.Emphasis
import Taskbook.Markdown.Link
import Taskbook.Markdown.RawHtml

namespace Taskbook.Markdown

/-- An opening bracket that is not closed yet. -/
structure Bracket where
  image : Bool
  /-- Whether a link may begin at it: no bracket around a link begins another. -/
  live : Bool := true
  /-- The text behind it. -/
  source : Text
  /-- The pieces before it, the last one first. -/
  before : List Piece

/-- What has been read of a text. -/
structure Scan where
  /-- The pieces behind the innermost open bracket, the last one first. -/
  pieces : List Piece := []
  /-- The open brackets, the innermost one first. -/
  brackets : List Bracket := []
  /-- The text behind the pieces, its last character first. -/
  run : Text := []
  /-- The last character. -/
  last : Option Char := none
  /-- Whether the text lies within a link that is written as HTML. -/
  anchored : Bool := false

namespace Scan

/-- The text behind the pieces becomes a piece. -/
def flush (scan : Scan) : Scan :=
  if scan.run = [] then scan
  else { scan with pieces := .span (.text scan.run.reverse) :: scan.pieces, run := [] }

/-- One more character of text. -/
def char (scan : Scan) (c : Char) : Scan := { scan with run := c :: scan.run, last := some c }

/-- One more piece, which ends with the character `last`. -/
def piece (scan : Scan) (piece : Piece) (last : Char) : Scan :=
  let scan := scan.flush
  { scan with pieces := piece :: scan.pieces, last := some last }

/-- One more span. -/
def span (scan : Scan) (span : Span) (last : Char) : Scan := scan.piece (.span span) last

/-- An opening bracket. -/
def openBracket (scan : Scan) (image : Bool) (source : Text) : Scan :=
  let scan := scan.flush
  { scan with
    pieces := []
    brackets := { image, source, before := scan.pieces } :: scan.brackets
    last := some '[' }

/-- The character at the head of a text, as a run of marks before it sees it: an address that stands
    by itself is seen as a symbol. -/
def ahead (scan : Scan) (s : Text) : Option Char :=
  if !scan.anchored && (readWebAddress? false s).isSome then some '<' else s.head?

/-- Whether a character makes runs of emphasis. -/
def isMark (c : Char) : Bool := c = '*' || c = '_'

/-- Words of equal characters, read for emphasis alone; `after` follows them. -/
def words (scan : Scan) (after : Option Char) : List Text → Scan
  | [] => scan
  | word :: rest =>
    match word with
    | [] => scan.words after rest
    | c :: _ =>
      if isMark c then
        let next := (rest.flatten.head?).or after
        (scan.piece (.run (.between c word.length scan.last next)) c).words after rest
      else { scan with run := word ++ scan.run, last := some c }.words after rest

/-- An address before the rest of a text; within a link it is text that may hold emphasis. -/
def address (scan : Scan) (url shown source rest : Text) : Scan :=
  if scan.anchored then scan.words rest.head? (source.splitBy (· == ·))
  else scan.span (.address url shown source) (source.getLast?.getD '>')

/-- Whether a tag opens or closes a link; no other tag changes what the text lies within. -/
def linkState? (tag : Text) : Option Bool :=
  match tag with
  | '<' :: a :: d :: _ =>
    if (a = 'a' || a = 'A') && (d = ' ' || d = '>') then some true
    else
      match tag with
      | '<' :: '/' :: a :: d :: _ =>
        if (a = 'a' || a = 'A') && (d = ' ' || d = '>') then some false else none
      | _ => none
  | _ => none

/-- A piece of HTML. -/
def html (scan : Scan) (tag : Text) : Scan :=
  { scan.span (.html tag) '>' with anchored := (linkState? tag).getD scan.anchored }

end Scan

/-- The mark with which a bracket was opened. -/
def Bracket.mark (bracket : Bracket) : Text := if bracket.image then "![" else "["

/-- The pieces of a text that ends with an open bracket and the given pieces behind it. -/
def Bracket.abandon (pieces : List Piece) (bracket : Bracket) : List Piece :=
  pieces ++ .span (.text bracket.mark) :: bracket.before

/-- The target that a label behind the closing bracket names, or else the bracketed text. -/
def referenceTarget? (targets : Targets) (source rest : Text) : Option (Target × Text) := do
  let second : Option (Text × Text) :=
    match rest with
    | '[' :: more => readLabel? maxLabel more
    | _ => none
  match second with
  | some (label@(_ :: _), after) => pure (← targets.lookup (foldLabel label), after)
  | _ =>
    let (label, after) ← readLabel? maxLabel source
    let target ← targets.lookup (foldLabel label)
    if after.length = rest.length then pure (target, (second.map (·.2)).getD rest) else none

/-- The target behind the closing bracket of a text, and what follows it. -/
def linkTarget? (targets : Targets) (source rest : Text) : Option (Target × Text) :=
  let direct : Option (Target × Text) :=
    match rest with
    | '(' :: more => readTarget? more
    | _ => none
  match direct with
  | some read => some read
  | none => if targets = [] then none else referenceTarget? targets source rest

/-- A closing bracket, and what is left of the text behind it. A link makes the brackets around it
    plain text, an image does not; within a link that is written as HTML no other link begins. -/
def Scan.closeBracket (targets : Targets) (scan : Scan) (rest : Text) : Scan × Text :=
  match scan.brackets with
  | [] => (scan.char ']', rest)
  | bracket :: outer =>
    let scan := scan.flush
    let body := emphasize scan.pieces.reverse
    let linkable : Bool := bracket.live && (bracket.image || !scan.anchored) && mayEnclose body
    match if linkable then linkTarget? targets bracket.source rest else none with
    | some (target, after) =>
      let close (span : Span) (brackets : List Bracket) : Scan :=
        { scan with pieces := .span span :: bracket.before, brackets, last := some ')' }
      if bracket.image then (close (.image target.url target.title body) outer, after)
      else
        let retired := outer.map fun bracket => { bracket with live := bracket.live && bracket.image }
        (close (.link target.url target.title body) retired, after)
    | none =>
      ({ scan with
          pieces := .span (.text [']']) :: bracket.abandon scan.pieces
          brackets := outer
          last := some ']' },
        rest)

/-- A run of escaped punctuation characters, and what follows it. An ampersand is kept as a
    reference, since it begins none. -/
def readEscapes : Text → Text × Text
  | '\\' :: c :: rest =>
    if isAsciiPunct c then
      let more := readEscapes rest
      ((if c = '&' then ("&amp;" : Text) else [c]) ++ more.1, more.2)
    else ([], '\\' :: c :: rest)
  | s => ([], s)

/-- What follows two tildes. -/
def afterTildes? : Text → Option Text
  | '~' :: '~' :: after => some after
  | _ => none

/-- The text up to two tildes and what follows them. Before them stands no blank, and no tilde
    unless it is escaped. `struck` is the text before `s`, last character first, and `escaped` says
    that it ends with an odd number of backslashes. -/
def readStruck? (struck : Text) (escaped : Bool) : Text → Option (Text × Text)
  | [] => none
  | c :: rest =>
    let ends : Bool := if c = '~' then escaped else !isBlank c
    match if ends then afterTildes? rest else none with
    | some after => some ((c :: struck).reverse, after)
    | none => readStruck? (c :: struck) (c = '\\' && !escaped) rest

/-- What stands in angle brackets, and what follows it. -/
def readAngle? (scan : Scan) (s : Text) : Option (Scan × Text) :=
  match readAddress? s with
  | some (url, rest) =>
    some (scan.address (encodeUrl url) url ('<' :: url ++ ['>']) rest, rest)
  | none =>
    match readMailAddress? s with
    | some (address, rest) =>
      some (scan.address (encodeUrl ("mailto:" ++ address)) address ('<' :: address ++ ['>']) rest,
        rest)
    | none =>
      (afterInlineHtml? s).map fun rest => (scan.html (s.take (s.length - rest.length)), rest)

/-- How the text within a mark is read, within a link that is written as HTML or not. -/
abbrev ReadWithin := Bool → Text → List Span

/-- The scan behind the mark at the head of a text, and what is left of the text; `none` if no mark
    is there. -/
def readMark? (self : ReadWithin) (targets : Targets) (scan : Scan) (s : Text) :
    Option (Scan × Text) :=
  match s with
  | '\\' :: c :: rest =>
    if isAsciiPunct c then
      let (text, after) := readEscapes s
      some (scan.span (.text text) c, after)
    else if c = '\n' then some (scan.span .hardBreak '\n', rest.dropWhile isBlank)
    else none
  | '~' :: '~' :: rest =>
    if rest.head?.any fun c => !isBlank c && c ≠ '~' then
      (readStruck? [] false rest).map fun (text, after) =>
        (scan.span (.struck (self scan.anchored text)) '~', after)
    else none
  | '!' :: '[' :: rest => some (scan.openBracket true rest, rest)
  | '[' :: rest => some (scan.openBracket false rest, rest)
  | ']' :: rest => some (scan.closeBracket targets rest)
  | '<' :: _ => readAngle? scan s
  | 'h' :: _ =>
    (readWebAddress? (scan.brackets ≠ []) s).map fun (url, rest) =>
      (scan.address (encodeUrl url) url url rest, rest)
  | c :: rest =>
    if c = tick then
      match readCodeSpan? s with
      | some (code, after) => some (scan.span (.code code) tick, after)
      | none =>
        some (scan.span (.text (s.takeWhile (· = tick))) tick, s.dropWhile (· = tick))
    else if c = '\n' then some (scan.span .softBreak '\n', rest.dropWhile isBlank)
    else if c = ' ' then
      let spaces := s.takeWhile (· = ' ')
      match s.dropWhile (· = ' ') with
      | '\n' :: after =>
        let span := if 2 ≤ spaces.length then Span.hardBreak else .softBreak
        some (scan.span span '\n', after.dropWhile isBlank)
      | after => some ({ scan with run := spaces ++ scan.run, last := some ' ' }, after)
    else if Scan.isMark c then
      let width := (s.takeWhile (· = c)).length
      let after := s.dropWhile (· = c)
      some (scan.piece (.run (.between c width scan.last (scan.ahead after))) c, after)
    else none
  | [] => none

/-- The scan of a text. Each mark or character takes at least one character off the text, so the
    number of its characters is budget enough. -/
def readMarks (self : ReadWithin) (targets : Targets) : Nat → Scan → Text → Scan
  | 0, scan, _ => scan
  | _, scan, [] => scan
  | budget + 1, scan, c :: rest =>
    match readMark? self targets scan (c :: rest) with
    | some (scan, after) => readMarks self targets budget scan after
    | none => readMarks self targets budget (scan.char c) rest

/-- The spans of a scan, the brackets left open being text. -/
def Scan.spans (scan : Scan) : List Span :=
  let scan := scan.flush
  emphasize (scan.brackets.foldl (fun pieces bracket => bracket.abandon pieces) scan.pieces).reverse

/-- The spans of a text, those within others up to the given number of levels. The text within a
    mark is shorter than the text around it, so as many levels as the text has characters suffice. -/
def readNestedSpans (targets : Targets) : Nat → ReadWithin
  | 0, _, s => [.text s]
  | levels + 1, anchored, s =>
    (readMarks (readNestedSpans targets levels) targets s.length { anchored } s).spans

/-- The spans of a text with the targets of its document. -/
def readSpans (targets : Targets) (s : Text) : List Span :=
  readNestedSpans targets (s.length + 1) false s

end Taskbook.Markdown
