/-
  Texts in quotes, for messages. Apostrophes are the quotes, unless the text holds an apostrophe and
  no double quote. What cannot be seen is written as a number in base 16.
-/
import Taskbook.Text.Ranges
import Taskbook.Text.Utf8
import Taskbook.Text.Unicode.Printable

namespace Taskbook.Text

/-- Whether a character can be seen. -/
def isPrintable (c : Char) : Bool :=
  if c.toNat < 0x80 then 0x20 ≤ c.toNat && c.toNat ≤ 0x7e else Unicode.printable.contains c.toNat

/-- The number of a character with its mark. -/
def codeEscape (c : Char) : Text :=
  let n := c.toNat
  if n < 0x100 then "\\x" ++ hexPadded 2 n
  else if n < 0x10000 then "\\u" ++ hexPadded 4 n
  else "\\U" ++ hexPadded 8 n

/-- A character as it is written between the given quotes. -/
def quoteChar (quote c : Char) : Text :=
  if c = quote || c = '\\' then ['\\', c]
  else if c = '\n' then "\\n"
  else if c = '\r' then "\\r"
  else if c = '\t' then "\\t"
  else if isPrintable c then [c]
  else codeEscape c

/-- A text in quotes. -/
def quoted (s : Text) : Text :=
  let quote : Char := if s.contains '\'' && !s.contains '"' then '"' else '\''
  quote :: s.flatMap (quoteChar quote) ++ [quote]

end Taskbook.Text
