/-
  The parts of links: labels, bracketed texts, destinations and titles. Each reader gives what it
  read and what follows.
-/
import Taskbook.Markdown.Document
import Taskbook.Text.Case
import Taskbook.Text.Percent
import Taskbook.Html.CharacterReference

namespace Taskbook.Markdown

/-- The most characters of a label, an escaped pair counting as one. -/
def maxLabel : Nat := 999

/-- A text with the backslash taken off each escaped punctuation character. -/
def unescapeMarks : Text → Text
  | '\\' :: c :: rest =>
    if isAsciiPunct c then c :: unescapeMarks rest else '\\' :: unescapeMarks (c :: rest)
  | c :: rest => c :: unescapeMarks rest
  | [] => []

/-- Two labels are the same if they agree up to case and the width of blanks. -/
def foldLabel (label : Text) : Text := (Text.join [' '] (Text.words label)).lower.upper

/-- A label up to its closing bracket, of at most `budget` characters. -/
def readLabel? : Nat → Text → Option (Text × Text)
  | _, ']' :: rest => some ([], rest)
  | _, '[' :: _ => none
  | 0, _ => none
  | budget + 1, '\\' :: c :: rest =>
    if c = '\n' then none
    else (readLabel? budget rest).map fun read => ('\\' :: c :: read.1, read.2)
  | _, ['\\'] => none
  | budget + 1, c :: rest => (readLabel? budget rest).map fun read => (c :: read.1, read.2)
  | _, [] => none

/-- Blanks with at most one line feed among them are passed over. -/
def skipSpacing (s : Text) : Text :=
  let gap (c : Char) : Bool := isAsciiBlank c && c ≠ '\n'
  match s.dropWhile gap with
  | '\n' :: rest => rest.dropWhile gap
  | rest => rest

/-- A destination in angle brackets. -/
def readAngled? : Text → Option (Text × Text)
  | '>' :: rest => some ([], rest)
  | '\\' :: c :: rest =>
    if c = '\n' then none
    else (readAngled? rest).map fun read => ('\\' :: c :: read.1, read.2)
  | c :: rest =>
    if c = '<' || c = '\n' || c = '\\' || c = '\x00' then none
    else (readAngled? rest).map fun read => (c :: read.1, read.2)
  | [] => none

/-- A destination without brackets: up to a blank or a parenthesis that closes none within it.
    Parentheses that open within it are closed. -/
def readBare? (level : Nat) : Text → Option (Text × Text)
  | [] => if level = 0 then some ([], []) else none
  | '\\' :: c :: rest =>
    if isAsciiPunct c then
      (readBare? level rest).map fun read => ('\\' :: c :: read.1, read.2)
    else (readBare? level (c :: rest)).map fun read => ('\\' :: read.1, read.2)
  | c :: rest =>
    let next (level : Nat) : Option (Text × Text) :=
      (readBare? level rest).map fun read => (c :: read.1, read.2)
    if isAsciiBlank c then if level = 0 then some ([], c :: rest) else none
    else if c = '(' then next (level + 1)
    else if c = ')' then if level = 0 then some ([], c :: rest) else next (level - 1)
    else next level

/-- The destination of a link behind its opening parenthesis. -/
def readDestination? (s : Text) : Option (Text × Text) :=
  match skipSpacing s with
  | '<' :: rest => readAngled? rest
  | rest => readBare? 0 rest

/-- The destination in the definition of a label, which may be empty only in brackets. -/
def readDefined? (s : Text) : Option (Text × Text) :=
  match skipSpacing s with
  | '<' :: rest => readAngled? rest
  | rest => (readBare? 0 rest).filter fun read => read.1 ≠ []

/-- What stands before the closing quote, and what follows it. Quotes within a title are escaped. -/
def readQuoted? (quote : Char) : Text → Option (Text × Text)
  | [] => none
  | '\\' :: c :: rest =>
    if isAsciiPunct c then
      (readQuoted? quote rest).map fun read => ('\\' :: c :: read.1, read.2)
    else (readQuoted? quote (c :: rest)).map fun read => ('\\' :: read.1, read.2)
  | c :: rest =>
    if c = quote then some ([], rest)
    else if c = '\x00' then none
    else (readQuoted? quote rest).map fun read => (c :: read.1, read.2)

/-- What stands before the closing parenthesis, and what follows it. Parentheses within a title are
    escaped. -/
def readParenthesized? : Text → Option (Text × Text)
  | '\\' :: c :: rest =>
    if isAsciiPunct c then
      (readParenthesized? rest).map fun read => ('\\' :: c :: read.1, read.2)
    else (readParenthesized? (c :: rest)).map fun read => ('\\' :: read.1, read.2)
  | c :: rest =>
    if c = ')' then some ([], rest)
    else if c = '(' || c = '\x00' then none
    else (readParenthesized? rest).map fun read => (c :: read.1, read.2)
  | [] => none

/-- A title, in quotes or parentheses, and the blanks before it. -/
def readTitle? (s : Text) : Option (Text × Text) :=
  match s with
  | b :: _ =>
    if isAsciiBlank b then
      match s.dropWhile isAsciiBlank with
      | q :: rest =>
        let title :=
          if q = '"' || q = '\'' then readQuoted? q rest
          else if q = '(' then readParenthesized? rest
          else none
        title.map fun read => (unescapeMarks read.1, read.2)
      | [] => none
    else none
  | [] => none

/-- A character that stays as it is in a destination. -/
def keptInUrl (c : Char) : Bool :=
  (":/?#@!$&()*+,;=%" : Text).contains c

/-- A destination as an address: references replaced, other characters percent coded. -/
def encodeUrl (destination : Text) : Text :=
  Text.percentEncode keptInUrl (Html.unescape destination)

/-- The target of a link behind its opening parenthesis, up to the closing one. -/
def readTarget? (s : Text) : Option (Target × Text) := do
  let (destination, rest) ← readDestination? s
  let (title, rest) :=
    match readTitle? rest with
    | some (title, after) => (some title, after)
    | none => (none, rest)
  match rest.dropWhile isAsciiBlank with
  | ')' :: after =>
    some ({ url := encodeUrl (unescapeMarks destination), title := title.filter (· ≠ []) }, after)
  | _ => none

end Taskbook.Markdown
