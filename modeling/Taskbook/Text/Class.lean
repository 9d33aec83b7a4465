/-
  Character classes. Blanks are what separates words; line ends are what `Text.lines` cuts at; names
  and tags are made of word characters. Page names that arrive in a request body or an API path are
  checked against a second notion of word character, which takes marks and joiners in and leaves
  superscript and circled numbers out.
-/
import Taskbook.Text.Basic
import Taskbook.Text.Ranges
import Taskbook.Text.Unicode.Alphanumeric
import Taskbook.Text.Unicode.DecimalDigit
import Taskbook.Text.Unicode.WordCharacter

namespace Taskbook

/-- The code points between words: the separators of Unicode, and the controls from tab to carriage
    return, from file to unit separator, and next line. -/
def blankCodes : List Nat :=
  [0x09, 0x0a, 0x0b, 0x0c, 0x0d, 0x1c, 0x1d, 0x1e, 0x1f, 0x20, 0x85, 0xa0, 0x1680, 0x2000, 0x2001,
   0x2002, 0x2003, 0x2004, 0x2005, 0x2006, 0x2007, 0x2008, 0x2009, 0x200a, 0x2028, 0x2029, 0x202f,
   0x205f, 0x3000]

/-- A character between words. -/
def isBlank (c : Char) : Bool := blankCodes.contains c.toNat

/-- A blank around a number: any but the four separator controls. -/
def isPadding (c : Char) : Bool := isBlank c && !(0x1c ≤ c.toNat && c.toNat ≤ 0x1f)

/-- The code points that end a line; a carriage return and a line feed together end one line. -/
def lineEndCodes : List Nat := [0x0a, 0x0b, 0x0c, 0x0d, 0x1c, 0x1d, 0x1e, 0x85, 0x2028, 0x2029]

/-- A character that ends a line. -/
def isLineEnd (c : Char) : Bool := lineEndCodes.contains c.toNat

/-- One of the six blanks of ASCII. -/
def isAsciiBlank (c : Char) : Bool :=
  c = ' ' || c = '\t' || c = '\n' || c = '\r' || c = '\x0b' || c = '\x0c'

/-- `A` to `Z`. -/
def isCapital (c : Char) : Bool := 'A' ≤ c && c ≤ 'Z'

/-- `a` to `z`. -/
def isSmall (c : Char) : Bool := 'a' ≤ c && c ≤ 'z'

/-- `0` to `9`. -/
def isAsciiDigit (c : Char) : Bool := '0' ≤ c && c ≤ '9'

/-- A letter of ASCII. -/
def isAsciiLetter (c : Char) : Bool := isCapital c || isSmall c

/-- A letter or digit of ASCII. -/
def isAsciiAlnum (c : Char) : Bool := isAsciiLetter c || isAsciiDigit c

/-- A decimal digit of any script. -/
def isDigit (c : Char) : Bool :=
  isAsciiDigit c || 0x80 ≤ c.toNat && Text.Unicode.decimalDigit.contains c.toNat

/-- A letter of any script, or a character with a numeric value. -/
def isAlnum (c : Char) : Bool :=
  isAsciiAlnum c || 0x80 ≤ c.toNat && Text.Unicode.alphanumeric.contains c.toNat

/-- A word character: a letter, a number or the low line. -/
def isWord (c : Char) : Bool := isAlnum c || c = '_'

/-- A word character that may start a heading's name: no decimal digit and no low line. -/
def isLead (c : Char) : Bool := isWord c && !isDigit c && c ≠ '_'

/-- A word character in the sense of Unicode technical standard 18. -/
def isIdentifier (c : Char) : Bool :=
  isAsciiAlnum c || c = '_' || 0x80 ≤ c.toNat && Text.Unicode.wordCharacter.contains c.toNat

/-- The 32 punctuation characters of ASCII. -/
def isAsciiPunct (c : Char) : Bool := 0x21 ≤ c.toNat && c.toNat ≤ 0x7e && !isAsciiAlnum c

/-- A character that is neither a blank nor a letter or number, marks on letters included. -/
def isSymbol (c : Char) : Bool := !isBlank c && !isAlnum c

/-- The value of digits of ASCII. -/
def decimalValue (digits : Text) : Nat := digits.foldl (fun n c => 10 * n + (c.toNat - 0x30)) 0

/-- The value of a hexadecimal digit. -/
def hexValue? (c : Char) : Option Nat :=
  if isAsciiDigit c then some (c.toNat - 0x30)
  else if 'a' ≤ c && c ≤ 'f' then some (c.toNat - 0x57)
  else if 'A' ≤ c && c ≤ 'F' then some (c.toNat - 0x37)
  else none

end Taskbook
