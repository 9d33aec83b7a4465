/-
  Composed texts: texts in which every base and its marks are written with as few characters as
  Unicode has for them, the marks in their order. `isComposed` takes a text apart, puts the marks in
  order, composes it again and compares.
-/
import Taskbook.Text.Basic
import Taskbook.Text.Unicode.Composite
import Taskbook.Text.Unicode.Mark

namespace Taskbook.Text

/-- The combining class of a mark. -/
def markClass? (code : Nat) : Option Nat :=
  (Unicode.marks.find? fun run => run.1 ≤ code && code ≤ run.2.1).map (·.2.2)

/-- The combining class of a code point. -/
def markClass (code : Nat) : Nat := (markClass? code).getD 0

/-- The base and the marks of a code point, taken apart up to the given number of times. -/
def parts : Nat → Nat → List Nat
  | 0, code => [code]
  | depth + 1, code =>
    match Unicode.composites.lookup code with
    | some (base, mark) => parts depth base ++ [mark]
    | none => [code]

/-- The most marks that a code point stands for. -/
def maxParts : Nat := 3

/-- A code point put in front of ordered ones: a mark goes behind marks of a lower class. -/
def putInOrder (code : Nat) : List Nat → List Nat
  | [] => [code]
  | next :: rest =>
    if 0 < markClass next && markClass next < markClass code then next :: putInOrder code rest
    else code :: next :: rest

/-- The syllable that two Hangul characters make up: a lead and a vowel, or a syllable without tail
    and a tail. -/
def syllable? (a b : Nat) : Option Nat :=
  if 0x1100 ≤ a && a ≤ 0x1112 && 0x1161 ≤ b && b ≤ 0x1175 then
    some (0xac00 + ((a - 0x1100) * 21 + (b - 0x1161)) * 28)
  else if 0xac00 ≤ a && a ≤ 0xd7a3 && (a - 0xac00) % 28 = 0 && 0x11a8 ≤ b && b ≤ 0x11c2 then
    some (a + (b - 0x11a7))
  else none

/-- The code point that two code points make up. -/
def composite? (a b : Nat) : Option Nat :=
  ((Unicode.composites.find? fun entry => entry.2 = (a, b)).map (·.1)).or (syllable? a b)

/-- Ordered code points composed, behind a base and the marks that stay behind it, the last one
    first. A mark is kept from the base by a mark of its own or a higher class. -/
def compose (base : Option Nat) (marks : List Nat) : List Nat → List Nat
  | [] => base.toList ++ marks.reverse
  | code :: rest =>
    let free : Bool := marks.head?.all fun mark => markClass mark < markClass code
    match if free then base.bind (composite? · code) else none with
    | some composite => compose (some composite) marks rest
    | none =>
      if markClass code = 0 then base.toList ++ marks.reverse ++ compose (some code) [] rest
      else compose base (code :: marks) rest

/-- Whether a text is composed. -/
def isComposed (s : Text) : Bool :=
  let codes := s.map Char.toNat
  !codes.any Unicode.uncomposed.contains &&
    compose none [] ((codes.flatMap (parts maxParts)).foldr putInOrder []) = codes

end Taskbook.Text
