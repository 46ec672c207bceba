import Gatekeeper.Json.Reader
import Gatekeeper.Numeral.Binary64
/-!
# The value of a JSON number

A number without fraction and exponent that fits 64 bits is an integer. Any other is a number of
double precision: as many leading digits as fit 64 bits, scaled by a power of ten, where the
digits, the power and their product are each rounded.

`describe` names the value and its kind. A number of double precision is written positionally
between `1e-5` and `1e16` and with an exponent outside.
-/

namespace Gatekeeper.Json

open Numeral (Binary64)

/-- The value of a number. Negative zero is a number of double precision. -/
inductive Magnitude
  | integer (value : Int)
  | real (negative : Bool) (value : Binary64)
  deriving DecidableEq, Repr

namespace Magnitude

/-- Appends digits to a number as long as it stays below `2 ^ 64`, and gives the digits left. -/
def accumulate (n : Nat) : List Char → Nat × List Char
  | [] => (n, [])
  | d :: ds =>
    let m := 10 * n + (d.toNat - 0x30)
    if m < UInt64.size then accumulate m ds else (n, d :: ds)

/-- A power of ten, rounded. -/
def powerOfTen (k : Nat) : Binary64 := (Binary64.ofDecimal? 1 k).getD ⟨0, -1074⟩

/-- The rounded product. -/
def times? (x y : Binary64) : Option Binary64 :=
  Binary64.ofRatio? (x.toRatio.1 * y.toRatio.1) (x.toRatio.2 * y.toRatio.2)

/-- The rounded quotient by a number other than zero. -/
def over? (x y : Binary64) : Option Binary64 :=
  Binary64.ofRatio? (x.toRatio.1 * y.toRatio.2) (x.toRatio.2 * y.toRatio.1)

/-- `x · 10 ^ power`, rounded at each step; nothing when it is too large. Far below zero the power
is taken in steps of 308, up to where nothing is left of the number. -/
def scale? (x : Binary64) (power : Int) : Option Binary64 :=
  if x.mantissa = 0 then some x
  else if 308 < power then none
  else if 0 ≤ power then times? x (powerOfTen power.toNat)
  else if -308 ≤ power then over? x (powerOfTen (-power).toNat)
  else (over? x (powerOfTen 308)).bind fun x => scale? x (power + 308)
termination_by (-power).toNat
decreasing_by omega

/-- The value of a number; there is none when it is too large. -/
def ofNumber? (n : Reader.Number) : Option Magnitude :=
  let (whole, dropped) := accumulate 0 n.whole
  if dropped.isEmpty && n.fraction.isEmpty && n.exponent.isNone then
    if !n.negative then some (.integer whole)
    else if 0 < whole && whole ≤ 0x8000000000000000 then some (.integer (-whole))
    else (Binary64.ofRatio? whole 1).map (.real true)
  else
    let (digits, left) := accumulate whole n.fraction
    let power : Int := dropped.length - (n.fraction.length - left.length : Nat) +
      match n.exponent with
      | some (true, ds) => -(Nat.ofDigitChars 10 ds 0 : Int)
      | some (false, ds) => (Nat.ofDigitChars 10 ds 0 : Int)
      | none => 0
    ((Binary64.ofRatio? digits 1).bind fun x => scale? x power).map (.real n.negative)

/-- The decimal with a point, and an exponent when it is far from one. -/
def realText (x : Binary64) : List Char :=
  let d := x.shortest
  let ds := Nat.toDigits 10 d.digits
  let lead : Int := ds.length + d.power
  if d.digits = 0 then "0.0".toList
  else if -5 < lead && lead ≤ 16 then d.text
  else
    let tail := if ds.length = 1 then [] else '.' :: ds.drop 1
    ds.take 1 ++ tail ++ ['e'] ++ (toString (lead - 1)).toList

/-- Kind and value in words. -/
def describe : Magnitude → String
  | .integer n => s!"integer `{n}`"
  | .real negative x =>
    let sign := if negative then "-" else ""
    s!"floating point `{sign}{String.ofList (realText x)}`"

end Magnitude

end Gatekeeper.Json
