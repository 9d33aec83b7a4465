/-
  Pages as HTML. Frame lines are replaced first, then task lines; what that gives is read as a
  document and written as HTML. HTML without a heading of the first level gets the page's title as
  one, and all of it is put into sections.
-/
import Taskbook.Markdown.Html
import Taskbook.Page.Line
import Taskbook.Page.Section
import Taskbook.PageName.Title

namespace Taskbook.Page

/-- Whether a tag of a heading of the first level stands somewhere, in either case. -/
def hasHeading : Text → Bool
  | [] => false
  | c :: rest =>
    (match c, rest with
      | '<', h :: '1' :: d :: _ => (h = 'h' || h = 'H') && (isBlank d || d = '>')
      | _, _ => false) || hasHeading rest

/-- HTML with the page's title as its heading, unless it has one. -/
def addHeading (html name : Text) : Text :=
  if hasHeading html then html
  else "<h1>" ++ Html.escape (PageName.title name) ++ "</h1>\n" ++ html

/-- A page as HTML, and the requests made for it. -/
structure Rendering where
  html : Text
  requested : List Text
  /-- Why a request could not be sent, if there was such a request. -/
  stopped : Option Http.AddressFault
  deriving DecidableEq, Repr

/-- A page as HTML. -/
def render (scope : Scope) (name content : Text) : Rendering :=
  let found := placeTasks scope name (placeFrames content)
  { html := nest 1 (addHeading (Markdown.render found.text) name)
    requested := found.requested
    stopped := found.stopped }

end Taskbook.Page
