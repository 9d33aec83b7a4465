/-
  Routes. Each route has methods and a pattern of paths; those that fit a path are tried in the
  order of `routes`. A name in a path is one or more characters without a slash. One line feed may
  follow the fixed end of a path.
-/
import Taskbook.Text.Basic

namespace Taskbook.Site

/-- What is generated about the API: its description, two pages on which it is read, and the page to
    which one of them comes back after signing in. -/
inductive Document where
  | description
  | reader
  | signedIn
  | reference
  deriving DecidableEq, Repr

/-- What a request asks for. -/
inductive Endpoint where
  | document (document : Document)
  | listPages
  | getPage (name : Text)
  | rawPage (name : Text)
  | putPage (name : Text)
  | deletePage (name : Text)
  | preview
  | health
  | home
  | listView
  | editView (name : Text)
  | submit (name : Text)
  | sourceView (name : Text)
  | pageView (name : Text)
  deriving DecidableEq, Repr

/-- What comes before the tail `p` of a text, if it ends with it. -/
def dropTail? (p s : Text) : Option Text :=
  (Text.dropPrefix? p.reverse s.reverse).map List.reverse

/-- What comes before the fixed end of a path. -/
def beforeEnd? (tail path : Text) : Option Text :=
  dropTail? tail path <|> dropTail? (tail ++ ['\n']) path

/-- Whether a path is a fixed one. -/
def isFixed (fixed path : Text) : Bool := beforeEnd? fixed path = some []

/-- A text as a name. -/
def name? (s : Text) : Option Text := if s = [] || s.contains '/' then none else some s

/-- The name at the end of a path. -/
def lastName? (head path : Text) : Option Text := (Text.dropPrefix? head path).bind name?

/-- The name before the fixed end of a path. -/
def middleName? (head tail path : Text) : Option Text :=
  ((Text.dropPrefix? head path).bind (beforeEnd? tail)).bind name?

/-- Methods and what a path asks for with them. -/
structure Route where
  methods : List Text
  endpoint? : Text → Option Endpoint

/-- A route with a fixed path. -/
def Route.fixed (methods : List Text) (path : Text) (endpoint : Endpoint) : Route where
  methods := methods
  endpoint? asked := if isFixed path asked then some endpoint else none

/-- The head of the paths of pages in the API. -/
def pagesHead : Text := "/api/v1/pages/"

/-- The routes of what is generated about the API. The head of the answer alone may be asked for. -/
def documentRoutes : List Route :=
  [.fixed ["GET", "HEAD"] "/api/openapi.json" (.document .description),
   .fixed ["GET", "HEAD"] "/api/docs" (.document .reader),
   .fixed ["GET", "HEAD"] "/docs/oauth2-redirect" (.document .signedIn),
   .fixed ["GET", "HEAD"] "/api/redoc" (.document .reference)]

/-- The routes of pages, in the order in which they are tried. -/
def pageRoutes : List Route :=
  [.fixed ["GET"] "/api/v1/pages" .listPages,
   { methods := ["GET"], endpoint? := fun path => (lastName? pagesHead path).map .getPage },
   { methods := ["GET"], endpoint? := fun path =>
       (middleName? pagesHead "/raw" path).map .rawPage },
   { methods := ["PUT"], endpoint? := fun path => (lastName? pagesHead path).map .putPage },
   { methods := ["DELETE"], endpoint? := fun path => (lastName? pagesHead path).map .deletePage },
   .fixed ["POST"] "/api/v1/render" .preview,
   .fixed ["GET"] "/api/health" .health,
   .fixed ["GET"] "/" .home,
   .fixed ["GET"] "/_list" .listView,
   { methods := ["GET"], endpoint? := fun path => (lastName? "/e/" path).map .editView },
   { methods := ["POST"], endpoint? := fun path => (lastName? "/e/" path).map .submit },
   { methods := ["GET"], endpoint? := fun path => (middleName? "/" ".txt" path).map .sourceView },
   { methods := ["GET"], endpoint? := fun path => (lastName? "/" path).map .pageView }]

/-- All routes, in the order in which they are tried. -/
def routes : List Route := documentRoutes ++ pageRoutes

/-- What a path asks for, with the methods of each route that it fits. -/
def fitting (path : Text) : List (List Text × Endpoint) :=
  routes.filterMap fun route => (route.endpoint? path).map (route.methods, ·)

/-- What becomes of a method and a path. -/
inductive Routing where
  | endpoint (endpoint : Endpoint)
  /-- The path is there, for other methods. -/
  | notAllowed (methods : List Text)
  /-- The path is there without the slashes at its end. -/
  | elsewhere (path : Text)
  | nowhere
  deriving DecidableEq, Repr

/-- A path without the slashes at its end, if that is a path of some route. -/
def withoutSlashes? (path : Text) : Option Text :=
  let stem := Text.trimEnd (· = '/') path
  if stem.length < path.length && fitting stem ≠ [] then some stem else none

/-- Where a method and a path lead. -/
def route (method path : Text) : Routing :=
  match (fitting path).find? fun found => found.1.contains method with
  | some found => .endpoint found.2
  | none =>
    match fitting path with
    | found :: _ => .notAllowed found.1
    | [] =>
      match withoutSlashes? path with
      | some stem => .elsewhere stem
      | none => .nowhere

end Taskbook.Site
