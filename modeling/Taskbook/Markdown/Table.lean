/-
  Tables. A table has a line of heads, a line that rules the columns, and lines of cells; either
  every line begins and ends with a bar, or no such bars are needed. If the lines do not agree on
  the columns, they are a paragraph together.
-/
import Taskbook.Markdown.Line

namespace Taskbook.Markdown

/-- What stands between the first and the last bar of a line. -/
def barred? (line : Text) : Option Text :=
  match unindent? 3 line with
  | some ('|' :: rest) =>
    match (Text.trimEnd isGap rest).reverse with
    | '|' :: inner => some inner.reverse
    | _ => none
  | _ => none

/-- How a cell of the ruler aligns its column: hyphens between colons or none. An empty cell aligns
    nothing. -/
def alignment? (cell : Text) : Option Alignment :=
  let left : Bool := cell.head? = some ':'
  let right : Bool := cell.getLast? = some ':'
  let rest := if left then cell.drop 1 else cell
  let hyphens := if right then rest.dropLast else rest
  if cell = [] then some .none
  else if hyphens = [] || !hyphens.all (· = '-') then none
  else
    match left, right with
    | true, true => some .center
    | true, false => some .left
    | false, true => some .right
    | false, false => some .none

/-- A character of a ruler. -/
def isRulerChar (c : Char) : Bool := c = '-' || c = ':' || c = '|' || c = ' '

/-- The alignments of the columns between the bars of a ruler. -/
def alignments? (ruler : Text) : Option (List Alignment) :=
  (Text.splitOn ['|'] ruler).mapM fun cell => alignment? (Text.trim (· = ' ') cell)

/-- What stands between the first and the last bar of a line, if that is anything. -/
def barredCells? (line : Text) : Option Text := (barred? line).filter (· ≠ [])

/-- The ruler of a barred table. -/
def barredRuler? (line : Text) : Option Text := (barredCells? line).filter (·.all isRulerChar)

/-- The ruler of a table without bars at the ends of its lines. -/
def openRuler? (line : Text) : Option Text :=
  (unindent? 3 line).filter fun s => s.all isRulerChar && s.contains '|'

/-- The heads of a table without bars at the ends of its lines. -/
def openHeads? (line : Text) : Option Text := do
  let s ← unindent? 3 line
  match s with
  | c :: rest => if !isBlank c && rest.contains '|' then some s else none
  | [] => none

/-- The cells of a line. A bar behind an odd number of backslashes does not end a cell. -/
def cells (s : Text) : List Text :=
  split [] false (Text.trim isBlank s)
where
  /-- The cells from the one that begins with `cell`, last character first. -/
  split (cell : Text) (escaped : Bool) : Text → List Text
    | [] => [Text.trim isBlank cell.reverse]
    | c :: rest =>
      if c = '|' && !escaped then Text.trim isBlank cell.reverse :: split [] false rest
      else split (c :: cell) (c = '\\' && !escaped) rest

/-- The table of the given heads, ruler and lines, if all have the same number of cells. Each line
    is reduced to its cells by `inner`. -/
def makeTable? (heads ruler : Text) (lines : List Text) (inner : Text → Option Text) :
    Option Block := do
  let header := cells heads
  let alignments ← alignments? ruler
  if header.length ≠ alignments.length then none
  else
    let rows ← lines.mapM fun line => do
      let row := cells (← inner line)
      if row.length = alignments.length then some row else none
    some (.table alignments header rows)

/-- The lines of a text in which every line has its line feed. -/
def fedLines (s : Text) : List Text :=
  if s = [] then [] else Text.splitOn ['\n'] (Text.dropFinalNewline s)

/-- Whether a line goes on with a barred table. -/
def startsBarred (line : Text) : Bool := (unindent? 3 line).any fun s => s.head? = some '|'

/-- A table at the head of a text: its block, if its lines agree, and what follows them. `none` if
    the first two lines do not begin a table. -/
def readTable? (s : Text) : Option (Option Block × Text) :=
  let (first, rest) := cutLine s
  let (second, body) := cutLine rest
  if !rest.contains '\n' then none
  else
    match barredCells? first, barredRuler? second with
    | some heads, some ruler =>
      let (rows, after) := takeLines startsBarred body
      some (makeTable? heads ruler (fedLines rows) barredCells?, after)
    | _, _ =>
      match openHeads? first, openRuler? second with
      | some heads, some ruler =>
        let (rows, after) := takeLines (fun line => line.contains '|') body
        some (makeTable? heads ruler (fedLines rows) some, after)
      | _, _ => none

end Taskbook.Markdown
