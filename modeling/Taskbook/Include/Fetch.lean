/-
  Requests for remote texts. A request gives a response with a status, or none at all; only a status
  of success gives a text.
-/
import Taskbook.Http.Address
import Taskbook.Include.Web

namespace Taskbook

/-- What a request gives. -/
inductive Fetched where
  | response (status : Nat) (text : Text)
  /-- There was no response. -/
  | noResponse (reason : Text)
  /-- The address is refused. -/
  | invalidAddress
  deriving DecidableEq, Repr

namespace Fetched

/-- The standard phrases of the status codes. -/
def phrases : List (Nat × String) :=
  [(100, "Continue"), (101, "Switching Protocols"), (102, "Processing"), (103, "Early Hints"),
   (200, "OK"), (201, "Created"), (202, "Accepted"), (203, "Non-Authoritative Information"),
   (204, "No Content"), (205, "Reset Content"), (206, "Partial Content"), (207, "Multi-Status"),
   (208, "Already Reported"), (226, "IM Used"),
   (300, "Multiple Choices"), (301, "Moved Permanently"), (302, "Found"), (303, "See Other"),
   (304, "Not Modified"), (305, "Use Proxy"), (307, "Temporary Redirect"),
   (308, "Permanent Redirect"),
   (400, "Bad Request"), (401, "Unauthorized"), (402, "Payment Required"), (403, "Forbidden"),
   (404, "Not Found"), (405, "Method Not Allowed"), (406, "Not Acceptable"),
   (407, "Proxy Authentication Required"), (408, "Request Timeout"), (409, "Conflict"),
   (410, "Gone"), (411, "Length Required"), (412, "Precondition Failed"),
   (413, "Request Entity Too Large"), (414, "Request-URI Too Long"),
   (415, "Unsupported Media Type"), (416, "Requested Range Not Satisfiable"),
   (417, "Expectation Failed"), (418, "I'm a teapot"), (421, "Misdirected Request"),
   (422, "Unprocessable Entity"), (423, "Locked"), (424, "Failed Dependency"),
   (425, "Too Early"), (426, "Upgrade Required"), (428, "Precondition Required"),
   (429, "Too Many Requests"), (431, "Request Header Fields Too Large"),
   (451, "Unavailable For Legal Reasons"),
   (500, "Internal Server Error"), (501, "Not Implemented"), (502, "Bad Gateway"),
   (503, "Service Unavailable"), (504, "Gateway Timeout"), (505, "HTTP Version Not Supported"),
   (506, "Variant Also Negotiates"), (507, "Insufficient Storage"), (508, "Loop Detected"),
   (510, "Not Extended"), (511, "Network Authentication Required")]

/-- The phrase of a status code. -/
def phrase (status : Nat) : Text := (phrases.lookup status).getD ""

/-- What a status other than success is called. -/
def statusKind (status : Nat) : Text :=
  match status / 100 with
  | 1 => "Informational response"
  | 3 => "Redirect response"
  | 4 => "Client error"
  | 5 => "Server error"
  | _ => "Invalid status code"

/-- Where a status is explained. -/
def statusPage (status : Nat) : Text :=
  "https" ++ "://" ++ "developer.mozilla.org" ++ "/en-US/docs/Web/HTTP/Status/" ++ Text.ofNat status

/-- What is said of a status other than success. -/
def statusMessage (address : Http.Address) (status : Nat) : Text :=
  statusKind status ++ " '" ++ Text.ofNat status ++ " " ++ phrase status ++ "' for url '" ++
    address.print ++ "'\nFor more information check: " ++ statusPage status

/-- Whether a status is one of success. -/
def isSuccess (status : Nat) : Bool := status / 100 = 2

/-- Why a request for an address failed, if it did. -/
def failure? (url : Text) : Fetched → Option Text
  | .response status _ =>
    if isSuccess status then none
    else (Http.Address.read? url).map fun address => url ++ ": " ++ statusMessage address status
  | .noResponse reason => some (url ++ ": " ++ reason)
  | .invalidAddress => none

/-- What becomes of the request for an address. Only an address to which requests can be sent has a
    response. -/
def reply (url : Text) : Fetched → Reply
  | .response status text =>
    match Http.AddressFault.of? url with
    | some fault => .invalidAddress fault
    | none => if isSuccess status then .body text else .failure
  | .noResponse _ => .failure
  | .invalidAddress => .invalidAddress .malformed

/-- What a request for an address that no table lists gives. -/
def refused : Fetched := .noResponse "connection refused"

end Fetched

/-- The web in which requests give what a table lists. -/
def Web.ofFetched (table : List (Text × Fetched)) : Web :=
  .ofTable (table.map fun entry => (entry.1, entry.2.reply entry.1))

end Taskbook
