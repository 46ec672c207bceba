import Gatekeeper.Numeral.Digits
import Gatekeeper.Text.Utf8
/-!
# Percent encoding

A byte written as `%` and two hexadecimal digits.

* `encode keep` writes the characters that `keep` holds of as they are and every other one as the
  escapes of its bytes, with capital digits.
* `decode` replaces each escape by its byte. A `%` that two hexadecimal digits do not follow stands
  for itself, so every sequence of bytes can be decoded.
-/

namespace Gatekeeper.Url.Percent

/-- The escape of one byte. -/
def escape (b : UInt8) : List Char :=
  '%' :: Numeral.hexDigitsUpper 2 b.toNat

/-- The text with every character escaped that `keep` does not hold of. -/
def encode (keep : Char → Bool) (cs : List Char) : List Char :=
  cs.flatMap fun c => if keep c then [c] else (Utf8.encodeChar c).flatMap escape

/-- The value of a byte that is a hexadecimal digit. -/
def digit? (b : UInt8) : Option Nat := Numeral.hexValue? (Char.ofNat b.toNat)

/-- The bytes with every escape replaced by the byte it stands for. -/
def decode : List UInt8 → List UInt8
  | [] => []
  | 0x25 :: a :: b :: t =>
    match digit? a, digit? b with
    | some h, some l => UInt8.ofNat (16 * h + l) :: decode t
    | _, _ => 0x25 :: decode (a :: b :: t)
  | a :: t => a :: decode t

end Gatekeeper.Url.Percent
