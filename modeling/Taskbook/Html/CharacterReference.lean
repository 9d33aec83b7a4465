/-
  Character references, read as browsers read them: a number that is no character stands for the
  replacement character or for nothing, and a name that is not known stands for its longest head
  that is.
-/
import Taskbook.Html.EntityTable
import Taskbook.Text.Lines

namespace Taskbook.Html

/-- The value of a numeral in base 16; characters that are no digits count nothing. -/
def hexNumeral (s : Text) : Nat := s.foldl (fun n c => 16 * n + (hexValue? c).getD 0) 0

/-- The named references that stand for the characters of markup, with what they stand for. -/
def markupEntities : List (Text × Text) :=
  [("amp;", ['&']), ("lt;", ['<']), ("gt;", ['>']), ("quot;", ['"'])]

/-- The named references with what they stand for. Those of markup come first, so that they are
    found without a look at the table, which has them too. -/
def entities : List (Text × Text) :=
  markupEntities ++ (Text.words entityTable).filterMap fun entry =>
    (Text.cut? ['='] entry).map fun (name, codes) =>
      (name, (Text.splitOn [','] codes).map fun code => Char.ofNat (hexNumeral code))

/-- What the numbers from 128 to 159 stand for: the characters of an old code page. -/
def codePage : List Nat :=
  [0x20ac, 0x81, 0x201a, 0x192, 0x201e, 0x2026, 0x2020, 0x2021, 0x2c6, 0x2030, 0x160, 0x2039,
   0x152, 0x8d, 0x17d, 0x8f, 0x90, 0x2018, 0x2019, 0x201c, 0x201d, 0x2022, 0x2013, 0x2014, 0x2dc,
   0x2122, 0x161, 0x203a, 0x153, 0x9d, 0x17e, 0x178]

/-- What a number stands for. -/
def numbered (n : Nat) : Text :=
  if n = 0 || 0x10ffff < n || (0xd800 ≤ n && n ≤ 0xdfff) then [Char.ofNat 0xfffd]
  else if 0x80 ≤ n && n ≤ 0x9f then [Char.ofNat (codePage.getD (n - 0x80) 0)]
  else if n = 0x0d then ['\r']
  else if n ≤ 8 || n = 0x0b || (0x0e ≤ n && n ≤ 0x1f) || n = 0x7f
      || (0xfdd0 ≤ n && n ≤ 0xfdef) || 0xfffe ≤ n % 0x10000 then []
  else [Char.ofNat n]

/-- What the longest known head of a name stands for, of those with at most `length` and at least
    two characters. -/
def longestHead? (name : Text) : Nat → Option Text
  | 0 | 1 => none
  | length + 1 =>
    match entities.lookup (name.take (length + 1)) with
    | some value => some (value ++ name.drop (length + 1))
    | none => longestHead? name length

/-- What a name, its semicolon included, stands for. -/
def named (name : Text) : Text :=
  match entities.lookup name with
  | some value => value
  | none => (longestHead? name (name.length - 1)).getD ('&' :: name)

/-- A character that may stand in the name of a reference. -/
def isNameChar (c : Char) : Bool :=
  !(c = '\t' || c = '\n' || c = '\x0c' || c = ' ' || c = '<' || c = '&' || c = '#' || c = ';')

/-- What the reference behind an ampersand stands for, and what follows it. -/
def readReference? (s : Text) : Option (Text × Text) :=
  match s with
  | '#' :: x :: rest =>
    if x = 'x' || x = 'X' then
      let digits := rest.takeWhile fun c => (hexValue? c).isSome
      match rest.dropWhile fun c => (hexValue? c).isSome with
      | ';' :: after => if digits = [] then none else some (numbered (hexNumeral digits), after)
      | _ => none
    else
      let digits := (x :: rest).takeWhile isAsciiDigit
      match (x :: rest).dropWhile isAsciiDigit with
      | ';' :: after =>
        if digits = [] || 7 < digits.length then none
        else some (numbered (decimalValue digits), after)
      | _ => none
  | _ =>
    let name := s.takeWhile isNameChar
    match s.dropWhile isNameChar with
    | ';' :: after =>
      if name = [] || 32 < name.length then none else some (named (name ++ [';']), after)
    | _ => none

/-- A text with its references replaced. -/
def unescape (s : Text) : Text :=
  match s with
  | [] => []
  | c :: rest =>
    if c = '&' then
      match readReference? rest with
      | some (value, after) =>
        if after.length ≤ rest.length then value ++ unescape after else c :: unescape rest
      | none => c :: unescape rest
    else c :: unescape rest
termination_by s.length
decreasing_by all_goals simp only [List.length_cons]; omega

end Taskbook.Html
