/-
  Patterns of file names: a star stands for any characters, a question mark for one, and brackets
  for one of the characters they list, or for one of the others behind an exclamation mark.
-/
import Taskbook.Text.Basic

namespace Taskbook.Import

/-- A part of a pattern. -/
inductive Piece where
  | char (c : Char)
  | one
  | many
  /-- One character of the given ranges, or of none of them. -/
  | oneOf (among : Bool) (ranges : List (Char × Char))
  deriving DecidableEq, Repr

/-- The ranges that brackets list. -/
def readRanges : Text → List (Char × Char)
  | a :: '-' :: b :: rest => (a, b) :: readRanges rest
  | a :: rest => (a, a) :: readRanges rest
  | [] => []

/-- What brackets list, and what follows them. A closing bracket in the first place is listed. -/
def readBrackets? (s : Text) : Option (Text × Text) :=
  match s with
  | c :: rest =>
    match rest.dropWhile (· ≠ ']') with
    | _ :: after => some (c :: rest.takeWhile (· ≠ ']'), after)
    | [] => none
  | [] => none

/-- What is listed behind the ranges in front that hold nothing. -/
def dropEmptyRanges : Text → Text
  | a :: '-' :: b :: rest => if b < a then dropEmptyRanges rest else a :: '-' :: b :: rest
  | listed => listed

/-- A list of ranges as a part of a pattern. An exclamation mark behind ranges that hold nothing
    stands in front. -/
def listPiece (among : Bool) (listed : Text) : Piece :=
  match among, dropEmptyRanges listed with
  | true, '!' :: others => .oneOf false (readRanges others)
  | _, _ => .oneOf among (readRanges listed)

/-- A pattern read from its text. A bracket that is not closed stands for itself. -/
def readPattern (s : Text) : List Piece :=
  match s with
  | [] => []
  | '*' :: rest => .many :: readPattern rest
  | '?' :: rest => .one :: readPattern rest
  | '[' :: rest =>
    let (among, inner) : Bool × Text :=
      match rest with
      | '!' :: more => (false, more)
      | _ => (true, rest)
    match readBrackets? inner with
    | some (listed, after) =>
      listPiece among listed ::
        if _h : after.length ≤ rest.length then readPattern after else []
    | none => .char '[' :: readPattern rest
  | c :: rest => .char c :: readPattern rest
termination_by s.length
decreasing_by all_goals simp only [List.length_cons]; omega

/-- Whether a character is one that a part stands for. -/
def Piece.takes (piece : Piece) (c : Char) : Bool :=
  match piece with
  | .char d => c = d
  | .one => true
  | .many => false
  | .oneOf among ranges => (ranges.any fun range => range.1 ≤ c && c ≤ range.2) = among

/-- Whether a text fits a pattern. -/
def fits (pattern : List Piece) (s : Text) : Bool :=
  match pattern, s with
  | [], [] => true
  | [], _ :: _ => false
  | .many :: more, [] => fits more []
  | .many :: more, c :: rest => fits more (c :: rest) || fits (.many :: more) rest
  | _ :: _, [] => false
  | piece :: more, c :: rest => piece.takes c && fits more rest
termination_by pattern.length + s.length

end Taskbook.Import
