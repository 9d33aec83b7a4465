/-
  Labels of host names in ASCII. The ASCII characters of a label come first. Then each other
  character, from the smallest on, is written as the number of steps from the one before it, where a
  step passes over one place in the label or, after the last place, over one code point. Numbers are
  written in base 36, the last digit being told by a threshold that adapts to the numbers written.
-/
import Taskbook.Text.Class

namespace Taskbook.Text.Punycode

/-- A digit of base 36: the letters, then the digits of base 10. -/
def digit (n : Nat) : Char := Char.ofNat (if n < 26 then 0x61 + n else 0x16 + n)

/-- Below this value a digit is the last one. `weight` is 36 for the first digit, 72 for the second,
    and so on. -/
def threshold (bias weight : Nat) : Nat := min 26 (max 1 (weight - bias))

/-- A number from the digit of the given weight on. -/
def writeNumber (bias weight n : Nat) : Text :=
  let t := threshold bias weight
  if n < t then [digit n]
  else digit (t + (n - t) % (36 - t)) :: writeNumber bias (weight + 36) ((n - t) / (36 - t))
termination_by n
decreasing_by
  have ht : 1 ≤ threshold bias weight := by unfold threshold; omega
  exact Nat.lt_of_le_of_lt (Nat.div_le_self _ _) (by omega)

/-- How far the weights outrun a number, reduced by the range of a digit at each step. -/
def outrun (n : Nat) : Nat :=
  if 455 < n then 36 + outrun (n / 35) else 36 * n / (n + 38)
termination_by n
decreasing_by omega

/-- The bias behind a number. `written` counts the characters written by then. -/
def adapt (first : Bool) (written n : Nat) : Nat :=
  let n := if first then n / 700 else n / 2
  outrun (n + n / written)

/-- A label in the middle of being written. -/
structure Progress where
  output : Text
  /-- The steps since the last character that has been written. -/
  steps : Nat := 0
  bias : Nat := 72
  /-- The number of characters written. -/
  written : Nat

/-- One place of the label passed over, or its character written if it is `next`. `basic` is the
    number of ASCII characters in the label. -/
def passPlace (basic : Nat) (next : Char) (progress : Progress) (c : Char) : Progress :=
  if c = next then
    { output := progress.output ++ writeNumber progress.bias 36 progress.steps
      bias := adapt (progress.written = basic) (progress.written + 1) progress.steps
      written := progress.written + 1 }
  else if c.toNat < next.toNat then { progress with steps := progress.steps + 1 }
  else progress

/-- The given characters of a label written, from the smallest on. All code points below `floor`
    have been written. -/
def writeRest (label : Text) (basic : Nat) (floor : Nat) (progress : Progress) : Text → Text
  | [] => progress.output
  | next :: more =>
    let start :=
      { progress with
        steps := progress.steps + (next.toNat - floor) * (progress.written + 1) }
    let passed := label.foldl (passPlace basic next) start
    writeRest label basic (next.toNat + 1) { passed with steps := passed.steps + 1 } more

/-- A label in ASCII. -/
def encode (label : Text) : Text :=
  let basic := label.filter fun c => c.toNat < 0x80
  let others := (label.filter fun c => 0x80 ≤ c.toNat).mergeSort fun c d => c.toNat ≤ d.toNat
  writeRest label basic.length 0x80
    { output := if basic = [] then [] else basic ++ ['-'], written := basic.length } others.eraseDups

/-- The value of a digit of base 36. -/
def digitValue? (c : Char) : Option Nat :=
  if isAsciiDigit c then some (c.toNat - 0x16)
  else if isSmall c then some (c.toNat - 0x61)
  else if isCapital c then some (c.toNat - 0x41)
  else none

/-- The number at the head of a text, from the digit of the given weight on, and what follows it.
    `factor` is what a digit counts, `n` the sum of the digits before. -/
def readNumber? (bias weight factor n : Nat) : Text → Option (Nat × Text)
  | [] => none
  | c :: rest => do
    let value ← digitValue? c
    let t := threshold bias weight
    let n := n + value * factor
    if value < t then some (n, rest) else readNumber? bias (weight + 36) (factor * (36 - t)) n rest

/-- A label in the middle of being read. -/
structure Started where
  label : Text
  /-- The code point that is put into the label next, if no steps are taken. -/
  floor : Nat := 0x80
  /-- The place at which it is put. -/
  place : Nat := 0
  bias : Nat := 72

/-- One more character put into a label behind so many steps. -/
def Started.put? (started : Started) (first : Bool) (steps : Nat) : Option Started :=
  let size := started.label.length + 1
  let reached := started.place + steps
  let code := started.floor + reached / size
  let place := reached % size
  if 0x10ffff < code then none
  else
    some
      { label := started.label.take place ++ Char.ofNat code :: started.label.drop place
        floor := code
        place := place + 1
        bias := adapt first size steps }

/-- The characters that the numbers in a text tell, put into a label. Each number takes at least one
    character of the text. -/
def readRest? (first : Bool) (started : Started) : Nat → Text → Option Text
  | _, [] => some started.label
  | 0, _ => none
  | budget + 1, s => do
    let (steps, rest) ← readNumber? started.bias 36 1 0 s
    readRest? false (← started.put? first steps) budget rest

/-- The label that a text in ASCII stands for. -/
def decode? (s : Text) : Option Text :=
  let (label, numbers) : Text × Text :=
    match cut? ['-'] s.reverse with
    | some (numbers, label) => (label.reverse, numbers.reverse)
    | none => ([], s)
  readRest? true { label } numbers.length numbers

end Taskbook.Text.Punycode
