/-
  Labels of host names. A label is composed text of letters, marks, digits and hyphens; some
  characters may stand in some company only, and characters of both directions do not mix. In ASCII
  a label of another script begins with `xn--`, and what follows has to stand for a label.
-/
import Taskbook.Text.Case
import Taskbook.Text.Composed
import Taskbook.Text.Punycode
import Taskbook.Text.Unicode.Direction
import Taskbook.Text.Unicode.HostLabel
import Taskbook.Text.Unicode.Joining
import Taskbook.Text.Unicode.Script

namespace Taskbook.Http

/-- What is wrong with a label. -/
inductive LabelFault where
  /-- It is empty, not composed, begins with a mark, has hyphens in the wrong places, joins what
      does not join, or stands for nothing. -/
  | form
  /-- It holds a character that is in no label. -/
  | character
  /-- It holds a character that does not stand in this company. -/
  | company
  /-- It mixes directions. -/
  | direction
  deriving DecidableEq, Repr

namespace Label

/-- The direction of a character in a label. -/
def direction (c : Char) : Text.Unicode.Direction :=
  ((Text.Unicode.directions.find? fun run => run.1 ≤ c.toNat && c.toNat ≤ run.2.1).map
    (·.2.2)).getD .left

/-- How a letter joins the letters beside it, if it does. -/
def joining? (c : Char) : Option Text.Unicode.Joining :=
  (Text.Unicode.joinings.find? fun run => run.1 ≤ c.toNat && c.toNat ≤ run.2.1).map (·.2.2)

/-- Whether hyphens stand at the ends of a label, or both in its third and fourth place. -/
def hasStrayHyphen (s : Text) : Bool :=
  s.head? = some '-' || s.getLast? = some '-' || (s.drop 2).take 2 = ['-', '-']

/-- The characters that keep apart or bring together the letters beside them. -/
def isJoiner (c : Char) : Bool := c.toNat = 0x200c || c.toNat = 0x200d

/-- Whether a joiner fits between what stands before it, last character first, and what follows: it
    stands behind a mark that takes the vowel of a letter, or it keeps apart two letters that would
    join past the marks between them. -/
def joinerFits (c : Char) (before after : Text) : Bool :=
  let silenced : Bool := before.head?.any fun d => Text.markClass d.toNat = 9
  let isTransparent (d : Char) : Bool := direction d = .mark
  let letter? (s : Text) : Option Text.Unicode.Joining :=
    (s.dropWhile isTransparent).head?.bind joining?
  silenced ||
    (c.toNat = 0x200c &&
      (letter? before = some .next || letter? before = some .both) &&
      (letter? after = some .previous || letter? after = some .both))

/-- A digit of the Arabic script. -/
def isArabicDigit (c : Char) : Bool := 0x660 ≤ c.toNat && c.toNat ≤ 0x669

/-- A digit of the Arabic script as it is written farther east. -/
def isEasternDigit (c : Char) : Bool := 0x6f0 ≤ c.toNat && c.toNat ≤ 0x6f9

/-- Whether a character that needs company has it: what stands before it, last character first, and
    what follows. `none` if the character needs none. -/
def companyFits? (c : Char) (before after : Text) : Option Bool :=
  let isIn (script : Text.Ranges) (d : Char) : Bool := script.contains d.toNat
  match c.toNat with
  | 0xb7 => some (before.head? = some 'l' && after.head? = some 'l')
  | 0x375 => some (after.head?.any (isIn Text.Unicode.greek))
  | 0x5f3 | 0x5f4 => some (before.head?.any (isIn Text.Unicode.hebrew))
  | 0x30fb => some ((before ++ after).any (isIn Text.Unicode.kanaAndHan))
  | _ =>
    if isArabicDigit c then some !(before ++ after).any isEasternDigit
    else if isEasternDigit c then some !(before ++ after).any isArabicDigit
    else none

/-- What is wrong with a character between what stands before it, last character first, and what
    follows. -/
def characterFault? (c : Char) (before after : Text) : Option LabelFault :=
  if Text.Run.anyHolds Text.Unicode.hostLabel c.toNat then none
  else if isJoiner c then if joinerFits c before after then none else some .form
  else
    match companyFits? c before after with
    | some fits => if fits then none else some .company
    | none => some .character

/-- What is wrong with the first wrong character of a text; `before` stands before it, last
    character first. -/
def textFault? (before : Text) : Text → Option LabelFault
  | [] => none
  | c :: rest => (characterFault? c before rest).or (textFault? (c :: before) rest)

/-- Whether the directions in a label go together: it begins with a letter, holds the directions
    that go with that letter's, numbers of one kind at most, and ends with a letter or number, marks
    aside. A label without characters written from right to left holds what it likes. -/
def directionsFit (s : Text) : Bool :=
  let all := s.map direction
  let first := all.head?.getD .left
  let last := (all.reverse.dropWhile (· = .mark)).head?.getD .mark
  let backward : Bool := all.any fun d => d = .right || d = .arabic || d = .arabicNumber
  let goesWith (d : Text.Unicode.Direction) : Bool :=
    d = .number || d = .sign || d = .neutral || d = .boundary || d = .mark
  !all.contains .unknown &&
    (!backward ||
      if first = .right || first = .arabic then
        all.all (fun d => d = .right || d = .arabic || d = .arabicNumber || goesWith d) &&
          (last = .right || last = .arabic || last = .number || last = .arabicNumber) &&
          !(all.contains .number && all.contains .arabicNumber)
      else
        first = .left && all.all (fun d => d = .left || goesWith d) &&
          (last = .left || last = .number))

/-- The most characters of a name, a dot at its end included. -/
def maxName : Nat := 254

/-- What is wrong with a label of any script. -/
def fault? (s : Text) : Option LabelFault :=
  if s = [] || maxName < s.length || !Text.isComposed s || hasStrayHyphen s ||
      s.head?.any (fun c => (Text.markClass? c.toNat).isSome) then
    some .form
  else (textFault? [] s).or (if directionsFit s then none else some .direction)

/-- What is wrong with a label in ASCII, or with the label that it stands for. -/
def asciiFault? (s : Text) : Option LabelFault :=
  match Text.dropPrefix? "xn--" (Text.asciiLower s) with
  | none => fault? (Text.asciiLower s)
  | some coded =>
    if coded = [] || coded.getLast? = some '-' then some .form
    else
      match Text.Punycode.decode? coded with
      | some label => fault? label
      | none => some .form

/-- A label in ASCII. -/
def toAscii? (s : Text) : Option Text :=
  let (fault, coded) :=
    if s.all fun c => c.toNat < 0x80 then (asciiFault? s, s)
    else (fault? s, "xn--" ++ Text.Punycode.encode s)
  if fault.isNone && coded.length ≤ 63 then some coded else none

end Label

end Taskbook.Http
