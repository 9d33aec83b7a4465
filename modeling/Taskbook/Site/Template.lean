/-
  The pages that browsers are shown. A view has a title and a content and is set in a frame with
  links to the homepage and to the list of all pages.
-/
import Taskbook.PageName.Title
import Taskbook.Store.Basic

namespace Taskbook.Site

/-- A character as it is written in a view. -/
def escapeViewChar : Char → Text
  | '&' => "&amp;"
  | '<' => "&lt;"
  | '>' => "&gt;"
  | '"' => "&#34;"
  | '\'' => "&#39;"
  | c => [c]

/-- A text as it is written in a view. -/
def escapeView (s : Text) : Text := s.flatMap escapeViewChar

/-- The title of a page as it is written in a view. -/
def viewTitle (name : Text) : Text := escapeView (PageName.title name)

/-- What a browser is shown; both parts are HTML. -/
structure View where
  title : Text
  content : Text
  deriving DecidableEq, Repr

namespace View

/-- The view in its frame. -/
def html (view : View) (homepage : Text) : Text :=
  "<!DOCTYPE html>\n<html>\n<head>\n  <meta charset=\"utf-8\">\n  <title>" ++ view.title ++
    "</title>\n</head>\n<body>\n  <div id=\"nav\">\n    <a href=\"/" ++ escapeView homepage ++
    "\">" ++ viewTitle homepage ++
    "</a>\n    <a href=\"/_list\">All pages</a>\n  </div>\n  <div id=\"content\">\n    " ++
    view.content ++ "\n  </div>\n</body>\n</html>"

/-- A page, rendered. -/
def page (name rendered : Text) : View where
  title := viewTitle name
  content :=
    "\n<div id=\"page_content\">\n  " ++ rendered ++
      "\n</div>\n<p class=\"page-actions\">\n  <a href=\"/e/" ++ escapeView name ++
      "\">Edit</a>\n  <a href=\"/" ++ escapeView name ++ ".txt\">Source</a>\n</p>\n"

/-- The form in which a page is edited. -/
def editor (name source : Text) : View where
  title := "Editing " ++ viewTitle name
  content :=
    "\n<h1>Editing " ++ viewTitle name ++ "</h1>\n<form method=\"POST\" action=\"/e/" ++
      escapeView name ++
      "\">\n  <p>\n    <textarea name=\"body\" rows=\"16\" cols=\"60\">" ++ escapeView source ++
      "</textarea>\n  </p>\n  <p>\n    <input class=\"submit\" type=\"submit\" " ++
      "value=\"Save as the newest version\">\n    or\n    <a class=\"cancel\" href=\"/" ++
      escapeView name ++ "\">cancel</a>\n  </p>\n</form>\n"

/-- The line of one page in the list; lines are odd and even in turns. -/
def listLine (odd : Bool) (name : Text) : Text :=
  "\n  <li class=\"" ++ (if odd then "odd" else "even" : Text) ++
    "\"><a class=\"page_name\" href=\"/" ++ escapeView name ++ "\">" ++ viewTitle name ++
    "</a></li>\n  "

/-- The lines of pages in the list. -/
def listLines (odd : Bool) : List Text → Text
  | [] => []
  | name :: rest => listLine odd name ++ listLines (!odd) rest

/-- The list of all pages. -/
def list (names : List Text) : View where
  title := "Listing pages"
  content :=
    "\n<h1>All pages</h1>\n" ++
      (if names = [] then ("\n<p>No pages found.</p>\n" : Text)
        else "\n<ul id=\"pages_list\">\n  " ++ listLines true names ++ "\n</ul>\n") ++ ['\n']

/-- What is shown where there is nothing. -/
def notFound : View where
  title := "Not found"
  content := "\n<h1>Not found</h1>\n<p>The page you requested could not be found.</p>\n"

end View

end Taskbook.Site
