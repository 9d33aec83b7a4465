/-
  Percent coding of addresses. A byte is written as a percent sign and two hexadecimal digits unless
  it is a character that may stand for itself.
-/
import Taskbook.Text.Utf8
import Taskbook.Text.Class

namespace Taskbook.Text

/-- A character that always stands for itself. -/
def isUnreserved (c : Char) : Bool :=
  isAsciiAlnum c || c = '_' || c = '.' || c = '-' || c = '~'

/-- A byte as a percent sign and two capital digits. -/
def percentByte (b : UInt8) : Text :=
  let digit (n : Nat) : Char := Char.ofNat (if n < 10 then 0x30 + n else 0x37 + n)
  ['%', digit (b.toNat / 16), digit (b.toNat % 16)]

/-- A character for itself, or its bytes percent coded. -/
def percentChar (keep : Char → Bool) (c : Char) : Text :=
  if isUnreserved c || keep c then [c] else (String.utf8EncodeChar c).flatMap percentByte

/-- A text with all characters percent coded that are neither reserved nor in `keep`. -/
def percentEncode (keep : Char → Bool) (s : Text) : Text := s.flatMap (percentChar keep)

/-- The bytes of a text in which percent codes stand for bytes. A percent sign without two digits
    behind it stands for itself. -/
def percentBytes : Text → Bytes
  | [] => []
  | '%' :: a :: b :: rest =>
    match hexValue? a, hexValue? b with
    | some x, some y => UInt8.ofNat (16 * x + y) :: percentBytes rest
    | _, _ => String.utf8EncodeChar '%' ++ percentBytes (a :: b :: rest)
  | c :: rest => String.utf8EncodeChar c ++ percentBytes rest

/-- A text with its percent codes decoded; bytes that are no UTF-8 become replacement characters. -/
def percentDecode (s : Text) : Text := decodeLossy (percentBytes s)

end Taskbook.Text
