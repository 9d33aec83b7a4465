/-
  Whole numbers as text: a sign or none, then digits of any script. Blanks may stand around a
  number, and single low lines between its digits.
-/
import Taskbook.Text.Class

namespace Taskbook.Whole

/-- The most digits of a whole number. -/
def maxDigits : Nat := 4300

/-- Why a text stands for no whole number. -/
inductive Failure where
  | noNumber
  /-- The number has this many digits, more than are taken in. -/
  | tooLong (digits : Nat)
  deriving DecidableEq, Repr

/-- The value of a decimal digit of any script. -/
def digitValue (c : Char) : Nat :=
  if isAsciiDigit c then c.toNat - 0x30
  else
    match Text.Unicode.decimalDigit.find? fun range => range.1 ≤ c.toNat && c.toNat ≤ range.2 with
    | some range => (c.toNat - range.1) % 10
    | none => 0

/-- The value of digits. -/
def valueOf (digits : Text) : Nat := digits.foldl (fun n c => 10 * n + digitValue c) 0

/-- A character of a numeral without its sign. -/
def inNumeral (c : Char) : Bool := isDigit c || c = '_'

/-- The whole number that a text stands for. Digits are counted before what follows them is looked
    at. -/
def read (s : Text) : Except Failure Int :=
  let s := Text.trim isPadding s
  let (negative, numeral) : Bool × Text :=
    match s with
    | '-' :: rest => (true, rest)
    | '+' :: rest => (false, rest)
    | _ => (false, s)
  let groups := Text.splitOn ['_'] (numeral.takeWhile inNumeral)
  let digits := groups.flatten
  if groups.contains [] then .error .noNumber
  else if maxDigits < digits.length then .error (.tooLong digits.length)
  else if numeral.dropWhile inNumeral ≠ [] then .error .noNumber
  else .ok (if negative then -(valueOf digits : Int) else valueOf digits)

end Taskbook.Whole
