/-
  Addresses of the web in their normal form: the scheme and the host in small letters, without a
  port that the scheme implies, without the parts of a path that point at the same or at the outer
  place, and with all characters percent coded that do not stand for themselves.
-/
import Taskbook.Http.Host
import Taskbook.Number.Whole

namespace Taskbook.Http

/-- The parts of a path with those left out that point at the same or at the outer place. -/
def dropDots (before : List Text) : List Text → List Text
  | [] => before.reverse
  | part :: rest =>
    if part = ['.'] then dropDots before rest
    else if part = ['.', '.'] then
      dropDots (if before = [[]] then before else before.drop 1) rest
    else dropDots (part :: before) rest

/-- A path without the parts that point at the same or at the outer place. -/
def plainPath (path : Text) : Text := Text.join ['/'] (dropDots [] (Text.splitOn ['/'] path))

/-- An address in its normal form. -/
structure Address where
  scheme : Text
  user : Text
  host : Text
  port : Option Int
  path : Text
  query : Option Text
  fragment : Option Text
  deriving DecidableEq, Repr

namespace Address

/-- The most characters of an address. -/
def maxLength : Nat := 65536

/-- A visible character of ASCII that is none of `coded`. -/
def keptBut (coded : Text) (c : Char) : Bool :=
  0x20 < c.toNat && c.toNat < 0x7f && !coded.contains c

/-- A text with the characters percent coded that do not stand for themselves in a fragment. -/
def codeFragment (s : Text) : Text := Text.percentEncode (keptBut "\"<>\x60") s

/-- A text with the characters percent coded that do not stand for themselves in a query. -/
def codeQuery (s : Text) : Text := Text.percentEncode (keptBut "\"#<>") s

/-- A text with the characters percent coded that do not stand for themselves in a path. -/
def codePath (s : Text) : Text := Text.percentEncode (keptBut "\"#<>?\x60\x7b\x7d") s

/-- A text with the characters percent coded that do not stand for themselves before a host. -/
def codeUser (s : Text) : Text := Text.percentEncode (keptBut "\"#<>?\x60\x7b\x7d/;=@[\\]^|") s

/-- The scheme before a colon, and what follows the colon. -/
def cutScheme (s : Text) : Text × Text :=
  let inScheme (c : Char) : Bool := isAsciiAlnum c || c = '+' || c = '.' || c = '-'
  match s.dropWhile inScheme with
  | ':' :: rest =>
    let scheme := s.takeWhile inScheme
    if scheme.head?.all isAsciiLetter then (scheme, rest) else ([], s)
  | _ => ([], s)

/-- The authority behind two slashes, and what follows it. -/
def cutAuthority (s : Text) : Text × Text :=
  match Text.dropPrefix? "//" s with
  | some rest =>
    let ends (c : Char) : Bool := c = '/' || c = '?' || c = '#'
    (rest.takeWhile (!ends ·), rest.dropWhile (!ends ·))
  | none => ([], s)

/-- A text split at the last place where `c` stands. -/
def cutLast? (c : Char) (s : Text) : Option (Text × Text) :=
  (Text.cut? [c] s.reverse).map fun (after, before) => (before.reverse, after.reverse)

/-- The host and the port of an authority without its user. -/
def cutPort (s : Text) : Text × Text :=
  let bracketed : Option (Text × Text) :=
    if s.head? = some '[' then (cutLast? ']' s).map fun (host, port) => (host ++ [']'], port)
    else none
  let (host, rest) := bracketed.getD (s.takeWhile (· ≠ ':'), s.dropWhile (· ≠ ':'))
  (host, if rest.head? = some ':' then rest.drop 1 else rest)

/-- The port that a scheme implies. -/
def impliedPort? (scheme : Text) : Option Int :=
  ([("ftp", 21), ("http", 80), ("https", 443), ("ws", 80), ("wss", 443)] : List (Text × Int)).lookup
    scheme

/-- The port that a text names, if it is not the one that the scheme implies. -/
def port? (scheme s : Text) : Option (Option Int) :=
  if s = [] then some none
  else
    match Whole.read s with
    | .ok n => some (if impliedPort? scheme = some n then none else some n)
    | .error _ => none

/-- Whether a path fits what stands before it. -/
def pathFits (scheme : Text) (authority : Bool) (path : Text) : Bool :=
  if authority then path = [] || path.head? = some '/'
  else scheme ≠ [] || !(Text.startsWith path "//" || path.head? = some ':')

/-- The address that a text stands for; `none` if it is no address. -/
def read? (s : Text) : Option Address := do
  if maxLength < s.length || s.any fun c => c.toNat < 0x20 || c.toNat = 0x7f then none
  else
    let (scheme, rest) := cutScheme s
    let (authority, rest) := cutAuthority rest
    let path := rest.takeWhile fun c => c ≠ '?' && c ≠ '#'
    let rest := rest.dropWhile fun c => c ≠ '?' && c ≠ '#'
    let query :=
      if rest.head? = some '?' then some ((rest.drop 1).takeWhile (· ≠ '#')) else none
    let fragment :=
      match rest.dropWhile (· ≠ '#') with
      | _ :: fragment => some fragment
      | [] => none
    let (user, place) := (cutLast? '@' authority).getD ([], authority)
    let (hostText, portText) := cutPort place
    let host ← Host.normal? hostText
    let port ← port? scheme portText
    let present := user ≠ [] || host ≠ [] || port.isSome
    if pathFits scheme present path then
      some
        { scheme := Text.asciiLower scheme
          user := codeUser user
          host, port
          path := codePath (if scheme ≠ [] || present then plainPath path else path)
          query := query.map codeQuery
          fragment := fragment.map codeFragment }
    else none

/-- The user, the host and the port of an address. -/
def authority (address : Address) : Text :=
  (if address.user = [] then [] else address.user ++ ['@']) ++
    (if address.host.contains ':' then '[' :: address.host ++ [']'] else address.host) ++
    match address.port with
    | some port => ':' :: Text.ofInt port
    | none => []

/-- An address as text. -/
def print (address : Address) : Text :=
  (if address.scheme = [] then [] else address.scheme ++ [':']) ++
    (if address.authority = [] then [] else '/' :: '/' :: address.authority) ++ address.path ++
    (match address.query with
      | some query => '?' :: query
      | none => []) ++
    match address.fragment with
    | some fragment => '#' :: fragment
    | none => []

end Address

/-- Why no request can be sent to an address. -/
inductive AddressFault where
  /-- It is no address. -/
  | malformed
  /-- A label of its host stands for nothing. -/
  | label (fault : LabelFault)
  deriving DecidableEq, Repr

/-- Why no request can be sent to an address, if none can. -/
def AddressFault.of? (s : Text) : Option AddressFault :=
  match Address.read? s with
  | none => some .malformed
  | some address => (Host.fault? address.host).map .label

end Taskbook.Http
