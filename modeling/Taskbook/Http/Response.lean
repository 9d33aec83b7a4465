/-
  Responses.
-/
import Taskbook.Json.Basic
import Taskbook.Text.Class
import Taskbook.Text.Percent

namespace Taskbook.Http

/-- What a response carries. -/
inductive Body where
  | nothing
  | json (value : Json)
  | html (text : Text)
  | plain (text : Text)

/-- The type of the body as a header gives it. -/
def Body.contentType? : Body → Option Text
  | .nothing => none
  | .json _ => some "application/json"
  | .html _ => some "text/html; charset=utf-8"
  | .plain _ => some "text/plain; charset=utf-8"

/-- A response. -/
structure Response where
  status : Nat
  body : Body := .nothing
  /-- Where the response leads to. -/
  location : Option Text := none
  /-- The methods that are allowed. -/
  allow : Option Text := none

/-- A character that stays as it is in a location. -/
def keptInLocation (c : Char) : Bool := (":/%#?=@[]!$&'()*+,;" : Text).contains c

namespace Response

/-- A response that leads to an address. -/
def redirect (status : Nat) (url : Text) : Response where
  status := status
  location := some (Text.percentEncode keptInLocation url)

/-- A JSON response that says what went wrong. -/
def detail (status : Nat) (message : Text) : Response where
  status := status
  body := .json (.object [("detail", .string message)])

end Response

end Taskbook.Http
