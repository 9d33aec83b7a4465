/-
  JSON values and their text. A number is kept as its numeral, so that none is rounded.
-/
import Taskbook.Text.Utf8

namespace Taskbook

/-- A JSON value. -/
inductive Json where
  | null
  | bool (value : Bool)
  | number (numeral : Text)
  | string (value : Text)
  /-- A string in which half of a pair of code units stands alone, so that no text is its value. -/
  | unpaired
  | array (items : List Json)
  | object (members : List (Text × Json))

namespace Json

/-- A whole number. -/
def ofInt (n : Int) : Json := .number (Text.ofInt n)

/-- The value of a member, the last one if the key is repeated; `none` if the value is no object. -/
def get? (value : Json) (key : Text) : Option Json :=
  match value with
  | .object members => members.reverse.lookup key
  | _ => none

mutual

/-- Whether a value can be sent: no half of a pair stands alone in it. -/
def sendable : Json → Bool
  | .unpaired => false
  | .array items => sendableItems items
  | .object members => sendableMembers members
  | _ => true

/-- Whether all items can be sent. -/
def sendableItems : List Json → Bool
  | [] => true
  | item :: more => item.sendable && sendableItems more

/-- Whether the values of all members can be sent. -/
def sendableMembers : List (Text × Json) → Bool
  | [] => true
  | (_, value) :: more => value.sendable && sendableMembers more

end

/-- A character as it is written in a string. -/
def escapeChar (c : Char) : Text :=
  if c = '"' then "\\\""
  else if c = '\\' then "\\\\"
  else if c = '\n' then "\\n"
  else if c = '\r' then "\\r"
  else if c = '\t' then "\\t"
  else if c = '\x08' then "\\b"
  else if c = '\x0c' then "\\f"
  else if c.toNat < 0x20 then "\\u" ++ Text.hexPadded 4 c.toNat
  else [c]

/-- A string with its quotes. -/
def quote (s : Text) : Text := '"' :: s.flatMap escapeChar ++ ['"']

mutual

/-- A value as text, without blanks. -/
def print : Json → Text
  | .null => "null"
  | .bool true => "true"
  | .bool false => "false"
  | .number numeral => numeral
  | .string value => quote value
  | .unpaired => quote [Char.ofNat 0xfffd]
  | .array items => '[' :: printItems items ++ [']']
  | .object members => '\x7b' :: printMembers members ++ ['\x7d']

/-- Items with commas between them. -/
def printItems : List Json → Text
  | [] => []
  | [item] => item.print
  | item :: more => item.print ++ ',' :: printItems more

/-- Members with commas between them. -/
def printMembers : List (Text × Json) → Text
  | [] => []
  | [(key, value)] => quote key ++ ':' :: value.print
  | (key, value) :: more => quote key ++ ':' :: value.print ++ ',' :: printMembers more

end

end Json

end Taskbook
