/-
  Lines and words of a text. Every line end of Unicode counts, a carriage return and a line feed
  together are one line end, and the text after the last line end is a line only if it is not empty.
-/
import Taskbook.Text.Class

namespace Taskbook.Text

/-- The lines of a text without their line ends. -/
def lines : Text → List Text
  | [] => []
  | '\r' :: '\n' :: rest => [] :: lines rest
  | c :: rest =>
    if isLineEnd c then [] :: lines rest
    else match lines rest with
      | [] => [[c]]
      | line :: more => (c :: line) :: more

/-- Carriage returns, alone or before a line feed, become line feeds. -/
def unixNewlines : Text → Text
  | [] => []
  | '\r' :: '\n' :: rest => '\n' :: unixNewlines rest
  | '\r' :: rest => '\n' :: unixNewlines rest
  | c :: rest => c :: unixNewlines rest

/-- The words of a text that follows `word`, whose characters are given last first. -/
def wordsFrom (word : Text) : Text → List Text
  | [] => if word = [] then [] else [word.reverse]
  | c :: rest =>
    if isBlank c then (if word = [] then [] else [word.reverse]) ++ wordsFrom [] rest
    else wordsFrom (c :: word) rest

/-- The words of a text, which have blanks between them. -/
def words (s : Text) : List Text := wordsFrom [] s

end Taskbook.Text
