/-
  Requests. A target that names no site is asked of the wiki, from the root of its paths. The path
  is percent decoded before anything is done with it; the query stays as it was sent until its
  fields are asked for.
-/
import Taskbook.Http.Address
import Taskbook.Http.Form
import Taskbook.Json.Reader
import Taskbook.Text.Case

namespace Taskbook.Http

/-- A request. -/
structure Request where
  method : Text
  scheme : Text := "http"
  path : Text
  query : Text := []
  headers : List (Text × Text) := []
  body : Text := []
  deriving DecidableEq, Repr

/-- What a request is sent to. -/
structure Target where
  /-- The scheme and the host with its port, if the target names both. -/
  site : Option (Text × Text)
  path : Text
  query : Text
  deriving DecidableEq, Repr

namespace Target

/-- The path as it is asked for: the root if there is none. -/
def askedPath (path : Text) : Text := if path = [] then ['/'] else Text.percentDecode path

/-- The target that an address names with its site. -/
def ofAddress (address : Address) : Target where
  site := some (address.scheme, { address with user := [] }.authority)
  path := askedPath address.path
  query := address.query.getD []

/-- The target that an address without a site names on the wiki. Slashes in front of its path are
    one slash. -/
def onWiki (address : Address) : Option Target :=
  let path := Address.codePath (plainPath ('/' :: address.path.dropWhile (· = '/')))
  if Address.maxLength < path.length || Address.maxLength < (address.query.getD []).length then none
  else some { site := none, path := askedPath path, query := address.query.getD [] }

/-- The target that a text stands for. -/
def read (s : Text) : Except AddressFault Target :=
  match Address.read? s with
  | none => .error .malformed
  | some address =>
    if address.scheme ≠ [] && address.host ≠ [] then
      match Host.fault? address.host with
      | some fault => .error (.label fault)
      | none => .ok (ofAddress address)
    else
      match onWiki address with
      | some target => .ok target
      | none => .error .malformed

end Target

namespace Request

/-- The value of a header, whose name is given in lower case. -/
def header? (request : Request) (name : Text) : Option Text :=
  (request.headers.find? fun entry => Text.asciiLower entry.1 = name).map (·.2)

/-- The type that a header gives to the body, without parameters. -/
def contentType (request : Request) : Text :=
  let value := (request.header? "content-type").getD []
  Text.asciiLower (Text.trim isBlank (value.takeWhile (· ≠ ';')))

/-- Whether the body is said to be JSON. -/
def sendsJson (request : Request) : Bool :=
  match Text.dropPrefix? "application/" request.contentType with
  | none => false
  | some kind => !kind.contains '/' && (kind = ("json" : Text) || Text.endsWith kind "+json")

/-- The most levels of a value in the body. -/
def maxLevels : Nat := 960

/-- The value in the body, if there is one, or why it is not JSON. A body that is not said to be
    JSON is taken for a string. -/
def json? (request : Request) : Except Json.Failure (Option Json) :=
  if request.body = [] then .ok none
  else if !request.sendsJson then .ok (some (.string request.body))
  else
    let text :=
      match request.body with
      | c :: rest => if c = Char.ofNat 0xfeff then rest else request.body
      | [] => []
    (Json.read maxLevels text).map some

/-- The form in the body, in one of the two ways of writing forms. A body of another type has
    none. -/
def readForm (request : Request) : Except FormFault Form :=
  if request.contentType = ("application/x-www-form-urlencoded" : Text) then readRow request.body
  else if request.contentType = ("multipart/form-data" : Text) then
    readMarked ((request.header? "content-type").getD []) request.body
  else .ok []

/-- Whether the body of the response is sent. -/
def takesBody (request : Request) : Bool := request.method ≠ ("HEAD" : Text)

/-- The host that the request was sent to. -/
def host (request : Request) : Text := (request.header? "host").getD []

end Request

end Taskbook.Http
