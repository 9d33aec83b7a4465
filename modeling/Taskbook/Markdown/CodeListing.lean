/-
  Listings of code in a named language. No language has colours of its own; plain text alone is
  known by name, and is set without the blanks around it.
-/
import Taskbook.Text.Case
import Taskbook.Text.Lines

namespace Taskbook.Markdown

/-- A character as it is written in a listing. -/
def escapeListingChar : Char → Text
  | '&' => "&amp;"
  | '<' => "&lt;"
  | '>' => "&gt;"
  | c => [c]

/-- Whether a word names plain text. -/
def namesPlainText (language : Text) : Bool :=
  Text.asciiLower (Text.trim isBlank language) = ("text" : Text)

/-- Code as it is listed: one line feed ends each line, the last one included. -/
def listingText (code language : Text) : Text :=
  let code :=
    match code with
    | c :: rest => if c = Char.ofNat 0xfeff then rest else code
    | [] => []
  let code := Text.unixNewlines code
  let code :=
    if namesPlainText language then Text.trim isBlank code else Text.trim (· = '\n') code
  if code.getLast? = some '\n' then code else code ++ ['\n']

/-- A listing as HTML. -/
def listing (code language : Text) : Text :=
  "<div class=\"highlight\"><pre><span></span>" ++
    (listingText code language).flatMap escapeListingChar ++ "</pre></div>\n"

end Taskbook.Markdown
