/-
  Fields, names with values, as they are written in queries and in the bodies of forms.
-/
import Taskbook.Text.Percent

namespace Taskbook.Http

/-- Names with values, in the order in which they were sent. -/
abbrev Fields := List (Text × Text)

/-- The last value of a name. -/
def Fields.get? (fields : Fields) (name : Text) : Option Text := fields.reverse.lookup name

/-- A part of a field with its codes and plus signs decoded. -/
def decodePart (s : Text) : Text :=
  Text.percentDecode (s.map fun c => if c = '+' then ' ' else c)

/-- The fields of a query as they are written, kept apart by ampersands. -/
def writtenFields (s : Text) : List Text := (Text.splitOn ['&'] s).filter (· ≠ [])

/-- A part of a field with codes, and with plus signs for blanks. -/
def encodePart (s : Text) : Text :=
  (Text.percentEncode (· = ' ') s).map fun c => if c = ' ' then '+' else c

/-- A written field. A name without an equals sign has the empty value. -/
def readField (s : Text) : Text × Text :=
  match Text.cut? ['='] s with
  | some (name, value) => (decodePart name, decodePart value)
  | none => (decodePart s, [])

/-- The number of characters in the name and the value of a field as it is written. -/
def fieldSize (s : Text) : Nat := if s.contains '=' then s.length - 1 else s.length

/-- The fields of a query. -/
def readQuery (s : Text) : Fields := (writtenFields s).map readField

/-- The bytes of a text as characters below 256. -/
def byteChars (s : Text) : Text := (Text.encode s).map fun b => Char.ofNat b.toNat

/-- A field with its name in front of an equals sign. -/
def writeField (field : Text × Text) : Text := encodePart field.1 ++ '=' :: encodePart field.2

/-- Fields as the body of a form. -/
def writeForm (fields : Fields) : Text := Text.join ['&'] (fields.map writeField)

end Taskbook.Http
