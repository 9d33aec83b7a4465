/-
  Documents as HTML. Text is written with its references replaced and then escaped, apostrophes left
  as they are; HTML within a document is passed on.
-/
import Taskbook.Html.Node
import Taskbook.Markdown.CodeListing
import Taskbook.Markdown.Reader
import Taskbook.Markdown.Span

namespace Taskbook.Markdown

/-- A character as it is written in the text of a document. -/
def escapeMarkupChar : Char → Text
  | '&' => "&amp;"
  | '<' => "&lt;"
  | '>' => "&gt;"
  | '"' => "&quot;"
  | c => [c]

/-- A text with the four characters of markup escaped. -/
def escapeMarkup (s : Text) : Text := s.flatMap escapeMarkupChar

/-- A text with its references replaced, escaped. -/
def writeText (s : Text) : Text := escapeMarkup (Html.unescape s)

/-- The schemes of addresses that links may lead to. -/
def safeSchemes : List Text := ["http", "https", "mailto", "tel", "ftp", "ftps", "irc", "ircs"]

/-- The heads of addresses that hold a picture. -/
def pictureHeads : List Text :=
  ["data:image/gif;", "data:image/png;", "data:image/jpeg;", "data:image/webp;"]

/-- An address in small letters, its coded characters decoded and its blanks left out. -/
def plainUrl (url : Text) : Text :=
  (Text.percentDecode url).lower.filter fun c => 0x20 < c.toNat

/-- What stands before the first colon of an address, unless a path or a fragment stands there or
    the address begins with a query. -/
def scheme? (url : Text) : Option Text := do
  let (head, _) ← Text.cut? [':'] url
  if head.contains '/' || head.contains '#' || head.head? = some '?' then none else some head

/-- Whether an address may be linked to: it names no scheme or a safe one, or holds a picture. -/
def isSafe (url : Text) : Bool :=
  let url := plainUrl url
  (scheme? url).all safeSchemes.contains || pictureHeads.any (Text.startsWith url)

/-- An address as the value of an attribute. -/
def writeUrl (url : Text) : Text := if isSafe url then writeText url else "#harmful-link"

/-- A title as an attribute. -/
def writeTitle (title : Option Text) : Text :=
  match title with
  | some title => " title=\"" ++ writeText title ++ "\""
  | none => []

/-- The text that stands for the image at the head of a text, and what follows its tag. -/
def readPicture? (s : Text) : Option (Text × Text) := do
  let rest ← Text.dropPrefix? "<img" s
  let mark : Text := " alt=\""
  let (before, _) ← Text.cut? mark (rest.takeWhile (· ≠ '>'))
  let (value, after) ← Text.cut? ['"'] (rest.drop (before.length + mark.length))
  match after.dropWhile (· ≠ '>') with
  | _ :: after => if before.head?.all isBlank then some (value, after) else none
  | [] => none

/-- What stands for the comment or tag at the head of a text, and what follows it. -/
def readTag? (s : Text) : Option (Text × Text) :=
  let comment : Option (Text × Text) := do
    let rest ← Text.dropPrefix? "<!--" s
    let (inner, after) ← Text.cut? "-->" rest
    if inner.contains '\n' then none else some ([], after)
  let tag : Option (Text × Text) :=
    match s with
    | '<' :: rest =>
      match rest.dropWhile (· ≠ '>') with
      | _ :: after => some ([], after)
      | [] => none
    | _ => none
  comment <|> readPicture? s <|> tag

/-- HTML without its tags and comments, but with the texts that stand for its images. -/
def stripTags (s : Text) : Text :=
  match s with
  | [] => []
  | c :: rest =>
    match readTag? s with
    | some (text, after) =>
      if after.length ≤ rest.length then text ++ stripTags after else c :: stripTags rest
    | none => c :: stripTags rest
termination_by s.length
decreasing_by all_goals simp only [List.length_cons]; omega

mutual

/-- A span as HTML, within a link or not. -/
def Span.write (linked : Bool) : Span → Text
  | .text content => writeText content
  | .code content => "<code>" ++ Html.escape content ++ "</code>"
  | .emphasis body => "<em>" ++ Span.writeAll linked body ++ "</em>"
  | .strong body => "<strong>" ++ Span.writeAll linked body ++ "</strong>"
  | .struck body => "<del>" ++ Span.writeAll linked body ++ "</del>"
  | .link url title body =>
    "<a href=\"" ++ writeUrl url ++ "\"" ++ writeTitle title ++ ">" ++ Span.writeAll true body ++
      "</a>"
  | .address url shown source =>
    if linked then writeText source
    else "<a href=\"" ++ writeUrl url ++ "\">" ++ writeText shown ++ "</a>"
  | .image url title body =>
    "<img src=\"" ++ writeUrl url ++ "\" alt=\"" ++
      writeText (stripTags (Span.writeAll linked body)) ++ "\"" ++ writeTitle title ++ " />"
  | .html content => content
  | .hardBreak => "<br />\n"
  | .softBreak => "\n"

/-- Spans as HTML, one after another. -/
def Span.writeAll (linked : Bool) : List Span → Text
  | [] => []
  | span :: rest => span.write linked ++ Span.writeAll linked rest

end

/-- The text of a block as HTML. Spaces and line ends around it do not count. -/
def writeSpans (targets : Targets) (s : Text) : Text :=
  let isEdge (c : Char) : Bool := c = ' ' || c = '\r' || c = '\n' || c = '\t' || c = '\x0c'
  Span.writeAll false (readSpans targets (Text.trim isEdge s))

/-- Code as HTML: a listing if a language is named. -/
def writeCode (code info : Text) : Text :=
  match info.takeWhile fun c => !isBlank c with
  | [] => "<pre><code>" ++ Html.escape code ++ "</code></pre>"
  | language => listing code language

/-- The value of an alignment, if there is one. -/
def Alignment.value? : Alignment → Option Text
  | .none => Option.none
  | .left => some "left"
  | .center => some "center"
  | .right => some "right"

/-- A cell of a table as HTML. -/
def writeCell (targets : Targets) (tag : Text) (alignment : Alignment) (cell : Text) : Text :=
  let style : Text :=
    match alignment.value? with
    | some value => " style=\"text-align:" ++ value ++ "\""
    | none => []
  "  <" ++ tag ++ style ++ ">" ++ writeSpans targets cell ++ "</" ++ tag ++ ">\n"

/-- A row of a table as HTML. -/
def writeRow (targets : Targets) (tag : Text) (alignments : List Alignment) (row : List Text) :
    Text :=
  "<tr>\n" ++ (List.zipWith (writeCell targets tag) alignments row).flatten ++ "</tr>\n"

/-- A table as HTML. -/
def writeTable (targets : Targets) (alignments : List Alignment) (header : List Text)
    (rows : List (List Text)) : Text :=
  "<table>\n<thead>\n" ++ writeRow targets "th" alignments header ++ "</thead>\n<tbody>\n" ++
    rows.flatMap (writeRow targets "td" alignments) ++ "</tbody>\n</table>\n"

/-- The tags around the items of a list. A list that starts with one does not say so. -/
def listTags : Option Nat → Text × Text
  | none => ("<ul>\n", "</ul>\n")
  | some n =>
    let start : Text := if n = 1 then [] else " start=\"" ++ Text.ofNat n ++ "\""
    ("<ol" ++ start ++ ">\n", "</ol>\n")

mutual

/-- A block as HTML. -/
def Block.write (targets : Targets) : Block → Text
  | .paragraph lines => "<p>" ++ writeSpans targets (joinLines lines) ++ "</p>\n"
  | .plain text => writeSpans targets text
  | .heading level text =>
    let digit := Text.ofNat level
    "<h" ++ digit ++ ">" ++ writeSpans targets text ++ "</h" ++ digit ++ ">\n"
  | .separator => "<hr />\n"
  | .blank => []
  | .code content info => writeCode content info
  | .html text => text ++ ['\n']
  | .quote body => "<blockquote>\n" ++ Block.writeAll targets body ++ "</blockquote>\n"
  | .list start items =>
    (listTags start).1 ++ Block.writeItems targets items ++ (listTags start).2
  | .table alignments header rows => writeTable targets alignments header rows

/-- Blocks as HTML, one after another. -/
def Block.writeAll (targets : Targets) : List Block → Text
  | [] => []
  | block :: rest => block.write targets ++ Block.writeAll targets rest

/-- The items of a list as HTML. -/
def Block.writeItems (targets : Targets) : List (List Block) → Text
  | [] => []
  | item :: rest =>
    "<li>" ++ Block.writeAll targets item ++ "</li>\n" ++ Block.writeItems targets rest

end

/-- A document as HTML. -/
def render (s : Text) : Text :=
  let (blocks, targets) := read s
  Block.writeAll targets blocks

end Taskbook.Markdown
