/-
  UTF-8. A character is one to four bytes; the decoder names the first bytes that cannot be read and
  why, and `decodeLossy` puts the replacement character in their place.
-/
import Taskbook.Text.Basic

namespace Taskbook.Text

/-- Bytes as numbers below 256. -/
abbrev Bytes := List UInt8

/-- The bytes of a text. -/
def encode (s : Text) : Bytes := s.flatMap String.utf8EncodeChar

/-- Why bytes cannot be read. -/
inductive Utf8Fault where
  | start
  | continuation
  | ending
  deriving DecidableEq, Repr

/-- The wording of the fault. -/
def Utf8Fault.reason : Utf8Fault → Text
  | .start => "invalid start byte"
  | .continuation => "invalid continuation byte"
  | .ending => "unexpected end of data"

/-- What stands at the head of bytes: a character and the bytes behind it, or the number of bytes
    that cannot be read, why, and the bytes behind them. -/
inductive Utf8Step where
  | char (c : Char) (rest : Bytes)
  | fault (length : Nat) (fault : Utf8Fault) (rest : Bytes)

/-- Whether a byte may continue a character. -/
def isContinuation (b : UInt8) : Bool := 0x80 ≤ b && b ≤ 0xbf

/-- Whether a byte may be the second one behind a first byte. Some first bytes narrow the range, so
    that no character has two forms, surrogates have none and the last code point is U+10FFFF. -/
def isSecond (first second : UInt8) : Bool :=
  isContinuation second &&
    (first ≠ 0xe0 || 0xa0 ≤ second) && (first ≠ 0xed || second ≤ 0x9f) &&
    (first ≠ 0xf0 || 0x90 ≤ second) && (first ≠ 0xf4 || second ≤ 0x8f)

/-- The six value bits of a continuation byte. -/
def low (b : UInt8) : Nat := b.toNat % 0x40

/-- The head of bytes, the first of which is given. -/
def decodeStep (a : UInt8) (rest : Bytes) : Utf8Step :=
  if a < 0x80 then .char (Char.ofNat a.toNat) rest
  else if a < 0xc2 || 0xf4 < a then .fault 1 .start rest
  else
    match rest with
    | [] => .fault 1 .ending []
    | b :: rest₁ =>
      if !isSecond a b then .fault 1 .continuation rest
      else if a < 0xe0 then .char (Char.ofNat (a.toNat % 0x20 * 0x40 + low b)) rest₁
      else
        match rest₁ with
        | [] => .fault 2 .ending []
        | c :: rest₂ =>
          if !isContinuation c then .fault 2 .continuation rest₁
          else if a < 0xf0 then
            .char (Char.ofNat (a.toNat % 0x10 * 0x1000 + low b * 0x40 + low c)) rest₂
          else
            match rest₂ with
            | [] => .fault 3 .ending []
            | d :: rest₃ =>
              if !isContinuation d then .fault 3 .continuation rest₂
              else .char (Char.ofNat
                (a.toNat % 0x08 * 0x40000 + low b * 0x1000 + low c * 0x40 + low d)) rest₃

/-- What is left after a step. -/
def Utf8Step.rest : Utf8Step → Bytes
  | .char _ rest => rest
  | .fault _ _ rest => rest

theorem length_rest_decodeStep (a : UInt8) (bytes : Bytes) :
    (decodeStep a bytes).rest.length ≤ bytes.length := by
  unfold decodeStep
  repeat' split
  all_goals simp only [Utf8Step.rest, List.length_cons, List.length_nil]
  all_goals omega

/-- The first fault of bytes: its place, its length, its first byte and its kind. -/
structure Utf8Error where
  position : Nat
  length : Nat
  byte : UInt8
  fault : Utf8Fault
  deriving DecidableEq, Repr

/-- The text of bytes that follow `position` others, or the first fault. -/
def decodeFrom (position : Nat) (bytes : Bytes) : Except Utf8Error Text :=
  match bytes with
  | [] => .ok []
  | a :: rest =>
    match _h : decodeStep a rest with
    | .char c after => do
      let text ← decodeFrom (position + (rest.length + 1 - after.length)) after
      pure (c :: text)
    | .fault length fault _ => .error { position, length, byte := a, fault }
termination_by bytes.length
decreasing_by
  have := length_rest_decodeStep a rest
  rw [_h] at this
  simp only [Utf8Step.rest] at this
  simp only [List.length_cons]
  omega

/-- The text of bytes, or the first fault. -/
def decode (bytes : Bytes) : Except Utf8Error Text := decodeFrom 0 bytes

/-- The text of bytes with the replacement character for each fault. -/
def decodeLossy (bytes : Bytes) : Text :=
  match bytes with
  | [] => []
  | a :: rest =>
    match _h : decodeStep a rest with
    | .char c after => c :: decodeLossy after
    | .fault _ _ after => Char.ofNat 0xfffd :: decodeLossy after
termination_by bytes.length
decreasing_by
  all_goals have hle := length_rest_decodeStep a rest
  all_goals rw [_h] at hle
  all_goals simp only [Utf8Step.rest] at hle
  all_goals simp only [List.length_cons]
  all_goals omega

/-- A number in base 16 with at least `width` digits, small letters. -/
def hexPadded (width n : Nat) : Text :=
  let digits := Nat.toDigits 16 n
  List.replicate (width - digits.length) '0' ++ digits

/-- The wording of the error. -/
def Utf8Error.message (error : Utf8Error) : Text :=
  let place : Text :=
    if error.length = 1 then
      "byte 0x" ++ hexPadded 2 error.byte.toNat ++ " in position " ++ ofNat error.position
    else
      "bytes in position " ++ ofNat error.position ++ "-" ++ ofNat (error.position + error.length - 1)
  "'utf-8' codec can't decode " ++ place ++ ": " ++ error.fault.reason

end Taskbook.Text
