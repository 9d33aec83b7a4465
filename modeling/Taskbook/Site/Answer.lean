/-
  The answers of the wiki. Each request has a session of its own: what it does to the store is
  committed, unless the run that rendered a page for it broke off, in which case there is no answer
  and the store stays as it was.
-/
import Taskbook.Http.Response
import Taskbook.Http.Stamp
import Taskbook.Include.Fetch
import Taskbook.Page.Render
import Taskbook.Settings
import Taskbook.Site.Check
import Taskbook.Site.Route
import Taskbook.Site.Template

namespace Taskbook

/-- A wiki: its settings, its store, what requests for remote texts give, and what it is
    built on. -/
structure Site where
  settings : Settings
  store : Store := {}
  remote : List (Text × Fetched) := []
  /-- How the form in the body of a request is read. -/
  readForm : Http.Request → Except Http.FormFault Http.Form := Http.Request.readForm
  /-- What is generated about the API. -/
  document : Site.Document → Http.Body := fun _ => .nothing

namespace Site

open Http

/-- What comes of a request. -/
structure Answer where
  /-- There is none if a page could not be rendered. -/
  response : Except AddressFault Response
  store : Store
  /-- The addresses requested, oldest first. -/
  requested : List Text := []

/-- The scope of the pages that a store holds. -/
def scope (site : Site) (store : Store) : Scope where
  notebook := store.notebook
  web := .ofFetched site.remote
  base := site.settings.baseUrl

/-- A view as a response. -/
def display (site : Site) (status : Nat) (view : View) : Response where
  status := status
  body := .html (view.html site.settings.homepage)

/-- A page as JSON, rendered or not. -/
def entryJson (entry : Entry) (rendered : Option Text) : Json :=
  .object
    [("id", .string entry.id), ("name", .string entry.name),
     ("title", .string (PageName.title entry.name)), ("content", .string entry.content),
     ("rendered", (rendered.map .string).getD .null),
     ("created_at", .string (stamp entry.created)), ("updated_at", .string (stamp entry.updated))]

/-- A page in the list of all pages as JSON. -/
def summaryJson (entry : Entry) : Json :=
  .object
    [("id", .string entry.id), ("name", .string entry.name),
     ("title", .string (PageName.title entry.name)),
     ("updated_at", .string (stamp entry.updated))]

/-- Problems as JSON. -/
def problemsJson (problems : List Problem) : Json :=
  .array (problems.map fun problem =>
    .object [("loc", .array (problem.place.map .string)), ("type", .string problem.fault.word)])

/-- The state of the wiki as JSON. -/
def healthJson (settings : Settings) : Json :=
  .object
    [("status", .string "ok"), ("app", .string settings.appName),
     ("version", .string settings.appVersion), ("environment", .string settings.stage.word)]

/-- An answer that leaves the store as it is. -/
def plainly (site : Site) (response : Response) : Answer :=
  { response := .ok response, store := site.store }

/-- An answer that shows a rendered page; the store is the given one. -/
def rendering (site : Site) (store : Store) (name content : Text) (respond : Text → Response) :
    Answer :=
  let found := Page.render (site.scope store) name content
  { response := (found.stopped.map .error).getD (.ok (respond found.html))
    store, requested := found.requested }

/-- What is said where there is nothing. Paths of the API get JSON; tabs and line ends in a path are
    passed over. -/
def notFound (site : Site) (path : Text) : Response :=
  let shown := path.filter fun c => !(c = '\t' || c = '\n' || c = '\r')
  if Text.startsWith shown "/api/" then .detail 404 "Not Found" else site.display 404 .notFound

/-- What is said of a name at the API under which there is no page. -/
def noPage (name : Text) : Response := .detail 404 (unknownPage name)

/-- What is said of a request that is not as it should be. -/
def refused : Refusal → Response
  | .problems found => { status := 422, body := .json (problemsJson found) }
  | .unreadable => .detail 400 "There was an error parsing the body"
  | .declined message => .detail 400 message
  | .unsendable => { status := 500, body := .plain "Internal Server Error" }

/-- Whether a request was sent by a script that wants the page back. -/
def wantsHtml (request : Request) : Bool :=
  Text.asciiLower ((request.header? "x-requested-with").getD []) = ("xmlhttprequest" : Text)

/-- A page at the API. -/
def getPage (site : Site) (request : Request) (name : Text) : Answer :=
  match checkRender request with
  | .error refusal => site.plainly (refused refusal)
  | .ok wanted =>
    match site.store.find? name with
    | none => site.plainly (noPage name)
    | some entry =>
      if wanted then
        site.rendering site.store entry.name entry.content fun html =>
          { status := 200, body := .json (entryJson entry (some html)) }
      else site.plainly { status := 200, body := .json (entryJson entry none) }

/-- A page saved at the API. -/
def putPage (site : Site) (now : Nat) (request : Request) (name : Text) : Answer :=
  match checkBody request (checkName ["path", "name"] name) checkSave with
  | .error refusal => site.plainly (refused refusal)
  | .ok (name, content) =>
    let (store, entry) := site.store.save now name content
    site.rendering store entry.name entry.content fun html =>
      { status := 200, body := .json (entryJson entry (some html)) }

/-- A page removed at the API. -/
def deletePage (site : Site) (name : Text) : Answer :=
  match site.store.remove? name with
  | none => site.plainly (noPage name)
  | some store =>
    { store
      response := .ok
        { status := 200
          body := .json (.object
            [("ok", .bool true), ("message", .string ("Page '" ++ name ++ "' deleted"))]) } }

/-- A page rendered without being saved. -/
def preview (site : Site) (request : Request) : Answer :=
  match checkBody request (.ok ()) checkPreview with
  | .error refusal => site.plainly (refused refusal)
  | .ok (_, content, name) =>
    site.rendering site.store name content fun html =>
      { status := 200, body := .json (.object [("html", .string html), ("name", .string name)]) }

/-- The form for a page. -/
def editView (site : Site) (path name : Text) : Answer :=
  if PageName.accepted name then
    let source := ((site.store.find? name).map Entry.content).getD []
    site.plainly (site.display 200 (.editor name source))
  else site.plainly (site.notFound path)

/-- A page saved from its form. -/
def submit (site : Site) (now : Nat) (request : Request) (name : Text) : Answer :=
  match checkForm (site.readForm request) with
  | .error refusal => site.plainly (refused refusal)
  | .ok content =>
    if PageName.accepted name then
      let (store, entry) := site.store.save now name content
      if wantsHtml request then
        site.rendering store entry.name entry.content fun html =>
          { status := 200, body := .html html }
      else { response := .ok (.redirect 303 ('/' :: name)), store }
    else site.plainly (site.notFound request.path)

/-- A page as a browser is shown it; a page that is not there is edited. -/
def pageView (site : Site) (name : Text) : Answer :=
  match site.store.find? name with
  | none => site.plainly (.redirect 302 ("/e/" ++ name))
  | some entry =>
    site.rendering site.store entry.name entry.content fun html =>
      site.display 200 (.page entry.name html)

/-- The answer of an endpoint. -/
def handle (site : Site) (now : Nat) (request : Request) : Endpoint → Answer
  | .document document => site.plainly { status := 200, body := site.document document }
  | .listPages =>
    site.plainly { status := 200, body := .json (.array (site.store.listing.map summaryJson)) }
  | .getPage name => site.getPage request name
  | .rawPage name =>
    site.plainly <|
      match site.store.find? name with
      | none => noPage name
      | some entry => { status := 200, body := .plain entry.content }
  | .putPage name => site.putPage now request name
  | .deletePage name => site.deletePage name
  | .preview => site.preview request
  | .health => site.plainly { status := 200, body := .json (healthJson site.settings) }
  | .home => site.plainly (.redirect 302 ('/' :: site.settings.homepage))
  | .listView => site.plainly (site.display 200 (.list (site.store.listing.map Entry.name)))
  | .editView name => site.editView request.path name
  | .submit name => site.submit now request name
  | .sourceView name =>
    site.plainly <|
      match site.store.find? name with
      | none => site.notFound request.path
      | some entry => { status := 200, body := .plain entry.content }
  | .pageView name => site.pageView name

/-- A character of a path as it is written in an address: the marks that would end the path are
    percent coded. -/
def addressChar : Char → Text
  | '?' => "%3F"
  | '#' => "%23"
  | c => [c]

/-- The address of a path on the host that a request was sent to, with the query of the request. -/
def addressOf (request : Request) (path : Text) : Text :=
  request.scheme ++ "://" ++ request.host ++ path.flatMap addressChar ++
    if request.query = [] then [] else '?' :: request.query

/-- The answer to a request, before the session ends. -/
def respond (site : Site) (now : Nat) (request : Request) : Answer :=
  match route request.method request.path with
  | .endpoint endpoint => site.handle now request endpoint
  | .notAllowed methods =>
    site.plainly
      { Response.detail 405 "Method Not Allowed" with allow := some (Text.join ", " methods) }
  | .elsewhere path => site.plainly (.redirect 307 (addressOf request path))
  | .nowhere => site.plainly (site.notFound request.path)

/-- The answer to a request, and the wiki behind it. -/
def answer (site : Site) (now : Nat) (request : Request) : Site × Answer :=
  let found := site.respond now request
  let store := if found.response.isOk then found.store.commit else found.store.rollback
  ({ site with store }, { found with store })

/-- What the homepage holds at first. -/
def welcome : Text :=
  "# Welcome to TaskWiki\n\n" ++
    "Pages are Markdown.  Lines starting with a task keyword become tasks:\n\n" ++
    "TODO project:Wiki write the first real page\nDONE install TaskWiki\n\n" ++
    "## Collecting tasks\n\n" ++
    "\x60INCLUDE project:Wiki\x60 lists every task on ProjectWiki, " ++
    "\x60INCLUDE wiki:all\x60 the tasks of every page.\n"

/-- The wiki with a homepage, which is made if there is none. -/
def seed (site : Site) (now : Nat) : Site :=
  match site.store.find? site.settings.homepage with
  | some _ => site
  | none =>
    { site with store := (site.store.save now site.settings.homepage welcome).1.commit }

/-- Whether the API can be described: it needs a name and a version. -/
def describable (settings : Settings) : Bool :=
  settings.appName ≠ [] && settings.appVersion ≠ []

end Site

end Taskbook
