/-
  Upper and lower case of a text in the full mapping of Unicode: one character may become several,
  and a capital sigma that ends a word becomes the final form. Words for yes and no are known in
  either case of ASCII.
-/
import Taskbook.Text.Class
import Taskbook.Text.Unicode.CaseMapping

namespace Taskbook.Text

/-- Whether a character has a case. -/
def isCased (c : Char) : Bool := Unicode.cased.contains c.toNat

/-- Whether a character is passed over in the search for the neighbours of a sigma. -/
def isCaseIgnorable (c : Char) : Bool := Unicode.caseIgnorable.contains c.toNat

/-- The lower case of one character, a sigma in its medial form. -/
def lowerChar (c : Char) : Text :=
  if c.toNat < 0x80 then [if isCapital c then Char.ofNat (c.toNat + 0x20) else c]
  else if c.toNat = 0x130 then ['i', Char.ofNat 0x307]
  else [Char.ofNat ((CaseRun.image? Unicode.toLower c.toNat).getD c.toNat)]

/-- Whether the next character that is not passed over has a case. -/
def beforeCased (s : Text) : Bool :=
  match s.dropWhile isCaseIgnorable with
  | [] => false
  | c :: _ => isCased c

/-- Lower case of what follows a text; `afterCased` says whether the last character of that text
    that is not passed over has a case. -/
def lowerAfter (afterCased : Bool) : Text → Text
  | [] => []
  | c :: rest =>
    (if c.toNat = 0x3a3 then
        [Char.ofNat (if afterCased && !beforeCased rest then 0x3c2 else 0x3c3)]
      else lowerChar c) ++
    lowerAfter (if isCaseIgnorable c then afterCased else isCased c) rest

/-- The lower case of a text. -/
def lower (s : Text) : Text := lowerAfter false s

/-- The upper case of one character. -/
def upperChar (c : Char) : Text :=
  match Unicode.toUpperLong.lookup c.toNat with
  | some image => image.map Char.ofNat
  | none => [Char.ofNat ((CaseRun.image? Unicode.toUpper c.toNat).getD c.toNat)]

/-- The upper case of a text. -/
def upper (s : Text) : Text := s.flatMap upperChar

/-- Lower case of the letters of ASCII only. -/
def asciiLower (s : Text) : Text :=
  s.map fun c => if isCapital c then Char.ofNat (c.toNat + 0x20) else c

/-- Words that mean yes. -/
def yesWords : List Text := ["1", "on", "t", "true", "y", "yes"]

/-- Words that mean no. -/
def noWords : List Text := ["0", "off", "f", "false", "n", "no"]

/-- Whether a text means yes or no, in either case of its letters; `none` if it means neither. -/
def flag? (s : Text) : Option Bool :=
  if yesWords.contains (asciiLower s) then some true
  else if noWords.contains (asciiLower s) then some false
  else none

/-- The order of texts by code point, a proper head first. -/
def le : Text → Text → Bool
  | [], _ => true
  | _ :: _, [] => false
  | a :: s, b :: t => if a = b then le s t else a.toNat < b.toNat

end Taskbook.Text
