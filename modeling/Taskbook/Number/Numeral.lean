/-
  Numbers as text. Numbers are read in positional or scientific notation, strictly or with blanks,
  low lines and digits of any script; they are written with the fewest digits that read back,
  positionally from a ten-thousandth up to sixteen digits before the point.
-/
import Taskbook.Number.Binary64
import Taskbook.Number.Whole
import Taskbook.Text.Case

namespace Taskbook.Binary64

/-- The sign at the head of a text, and what follows it. -/
def readSign (s : Text) : Bool × Text :=
  match s with
  | '-' :: rest => (true, rest)
  | '+' :: rest => (false, rest)
  | _ => (false, s)

/-- The exponent behind its mark; nothing is exponent zero. -/
def readPower? (s : Text) : Option Int :=
  match s with
  | [] => some 0
  | e :: rest =>
    let (negative, digits) := readSign rest
    if (e = 'e' || e = 'E') && digits ≠ [] && digits.all isAsciiDigit then
      let n := decimalValue digits
      some (if negative then -(n : Int) else n)
    else none

/-- The words that are no numerals. -/
def readWord? (negative : Bool) (s : Text) : Option Binary64 :=
  let word := Text.asciiLower s
  if word = ("inf" : Text) || word = ("infinity" : Text) then some (.infinite negative)
  else if word = ("nan" : Text) then some .nan
  else none

/-- The number that a text stands for. Digits may be left out on one side of the point. -/
def read? (s : Text) : Option Binary64 :=
  let (negative, s) := readSign s
  let whole := s.takeWhile isAsciiDigit
  let (fraction, rest) : Text × Text :=
    match s.dropWhile isAsciiDigit with
    | '.' :: rest => (rest.takeWhile isAsciiDigit, rest.dropWhile isAsciiDigit)
    | rest => ([], rest)
  if whole = [] && fraction = [] then readWord? negative s
  else
    (readPower? rest).map fun power =>
      ofDecimal negative (decimalValue (whole ++ fraction)) (power - fraction.length)

/-- A digit of any script as one of ASCII. -/
def plainDigit (c : Char) : Char :=
  if isDigit c then Char.ofNat (0x30 + Whole.digitValue c) else c

/-- Whether each low line of a text stands between two digits, where `last` is the character in
    front of the text. -/
def linesBetweenDigits (last : Char) : Text → Bool
  | [] => last ≠ '_'
  | c :: rest =>
    (last ≠ '_' || isAsciiDigit c) && (c ≠ '_' || isAsciiDigit last) && linesBetweenDigits c rest

/-- The number that a text stands for, with digits of any script, blanks around it and single low
    lines between its digits. -/
def readFree? (s : Text) : Option Binary64 :=
  let s := (Text.trim isPadding s).map plainDigit
  if linesBetweenDigits ' ' s then read? (s.filter (· ≠ '_')) else none

/-- Digits without the zeros at their end; `point` is the number of them before the point. -/
def layout (digits : Text) (point : Int) : Text :=
  let digits := Text.trimEnd (· = '0') digits
  if -4 < point && point ≤ 16 then
    if point ≤ 0 then "0." ++ List.replicate (-point).toNat '0' ++ digits
    else
      let n := point.toNat
      if digits.length ≤ n then digits ++ List.replicate (n - digits.length) '0' ++ ".0"
      else digits.take n ++ '.' :: digits.drop n
  else
    let power := (point - 1).natAbs
    let sign : Char := if point < 1 then '-' else '+'
    let mantissa :=
      match digits with
      | d :: e :: rest => d :: '.' :: e :: rest
      | _ => digits
    mantissa ++ 'e' :: sign :: (if power < 10 then '0' :: Text.ofNat power else Text.ofNat power)

/-- A number as text. -/
def print : Binary64 → Text
  | .nan => "nan"
  | .infinite negative => if negative then "-inf" else "inf"
  | .finite negative magnitude =>
    let sign : Text := if negative then ['-'] else []
    if magnitude = 0 then sign ++ "0.0"
    else
      let decimal := shortest magnitude
      let digits := Text.ofNat decimal.digits
      sign ++ layout digits (decimal.exponent + digits.length)

end Taskbook.Binary64
