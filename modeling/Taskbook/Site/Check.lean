/-
  What requests carry, checked. All faults of a request are reported together, those of the path
  first, then those of the query and of the body; a body that cannot be read is reported alone.
-/
import Taskbook.Http.Request
import Taskbook.PageName.Title
import Taskbook.Text.Case

namespace Taskbook.Site

open Http

/-- What is wrong with a part of a request. -/
inductive Fault where
  | missing
  | notString
  | tooShort
  | tooLong
  | malformed
  | notFlag
  | notObject
  | notJson
  deriving DecidableEq, Repr

/-- The fault as it is reported. -/
def Fault.word : Fault → Text
  | .missing => "missing"
  | .notString => "string_type"
  | .tooShort => "string_too_short"
  | .tooLong => "string_too_long"
  | .malformed => "string_pattern_mismatch"
  | .notFlag => "bool_parsing"
  | .notObject => "model_attributes_type"
  | .notJson => "json_invalid"

/-- A fault and the place where it is. -/
structure Problem where
  place : List Text
  fault : Fault
  deriving DecidableEq, Repr

/-- Why a request is refused. -/
inductive Refusal where
  | problems (found : List Problem)
  /-- The body cannot be read or goes beyond what is taken in. -/
  | unreadable
  /-- The form is not taken, as the message says. -/
  | declined (message : Text)
  /-- A value at fault cannot be sent back, as the report of the problems would have to. -/
  | unsendable
  deriving DecidableEq, Repr

/-- The refusal of a request in two ways. -/
def Refusal.append : Refusal → Refusal → Refusal
  | .problems found, .problems others => .problems (found ++ others)
  | .problems _, other => other
  | refusal, _ => refusal

/-- A value, or why there is none. -/
abbrev Checked (α : Type) := Except Refusal α

/-- One problem. -/
def problem {α : Type} (place : List Text) (fault : Fault) : Checked α :=
  .error (.problems [{ place, fault }])

/-- One problem of a value in the body, which is reported with the value. -/
def problemOf {α : Type} (value : Json) (place : List Text) (fault : Fault) : Checked α :=
  if value.sendable then problem place fault else .error .unsendable

/-- Two values checked independently; the problems of both are reported. -/
def both {α β : Type} (a : Checked α) (b : Checked β) : Checked (α × β) :=
  match a, b with
  | .ok x, .ok y => .ok (x, y)
  | .error p, .ok _ => .error p
  | .ok _, .error q => .error q
  | .error p, .error q => .error (p.append q)

/-- The most characters of a page that is saved at the API. -/
def maxContent : Nat := 10000000

/-- The most characters of a page that is rendered without being saved. -/
def maxPreview : Nat := 1000000

/-- A name at the API. -/
def checkName (place : List Text) (name : Text) : Checked Text :=
  if PageName.maxLength < name.length then problem place .tooLong
  else if name = [] then problem place .tooShort
  else if PageName.wellFormed name then .ok name
  else problem place .malformed

/-- A text of at most `limit` characters. -/
def checkLength (place : List Text) (limit : Nat) (s : Text) : Checked Text :=
  if limit < s.length then problem place .tooLong else .ok s

/-- A member of the body that has to be a string. What is not there is `otherwise`. -/
def checkMember (body : Json) (key : Text) (otherwise : Checked Text)
    (check : Text → Checked Text) : Checked Text :=
  match body.get? key with
  | none => otherwise
  | some (.string s) => check s
  | some value => problemOf value ["body", key] .notString

/-- The place of a value in the body. -/
def inBody (key : Text) : List Text := ["body", key]

/-- The content of a page in the body. -/
def checkSave (body : Json) : Checked Text :=
  checkMember body "content" (problemOf body (inBody "content") .missing)
    (checkLength (inBody "content") maxContent)

/-- The content and the name of a page that is to be rendered. Both may be left out. -/
def checkPreview (body : Json) : Checked (Text × Text) :=
  both
    (checkMember body "content" (.ok []) (checkLength (inBody "content") maxPreview))
    (checkMember body "name" (.ok "Preview") (checkName (inBody "name")))

/-- What stands in the body of a request, checked together with something before it. -/
def checkBody {α β : Type} (request : Request) (before : Checked α) (check : Json → Checked β) :
    Checked (α × β) :=
  match request.json? with
  | .error (.malformed place) => problem ["body", Text.ofNat place] .notJson
  | .error .excessive => .error .unreadable
  | .ok none => both before (problem ["body"] .missing)
  | .ok (some (.object members)) => both before (check (.object members))
  | .ok (some value) => both before (problemOf value ["body"] .notObject)

/-- The content of a page in the form that a request carries, if the form could be read. A file is
    no content. -/
def checkForm (read : Except FormFault Form) : Checked Text :=
  match read with
  | .error .unreadable => .error .unreadable
  | .error (.refused message) => .error (.declined message)
  | .ok form =>
    match form.get? "body" with
    | some .file => problem (inBody "body") .notString
    | _ => .ok (form.text "body")

/-- Whether a page is to be rendered; it is unless the query says otherwise. -/
def checkRender (request : Request) : Checked Bool :=
  match (readQuery request.query).get? "render" with
  | none => .ok true
  | some value =>
    match Text.flag? value with
    | some wanted => .ok wanted
    | none => problem ["query", "render"] .notFlag

end Taskbook.Site
