/-!
# Numbers of double precision

A non-negative number of 64-bit binary floating point, exactly: `mantissa · 2 ^ exponent` with at
most 53 bits in the mantissa and no exponent below `-1074`.

* `ofRatio? num den` is the number nearest to a quotient, a tie going to the even mantissa, and
  nothing when the quotient is too large for the format.
* `shortest` is the decimal `digits · 10 ^ power` with the fewest digits among those that
  `ofRatio?` takes back to the number, and of these the nearest.
* `text` writes that decimal with a point and without an exponent.

All arithmetic is on natural numbers, so nothing here rounds twice.
-/

namespace Gatekeeper.Numeral

/-- The number `mantissa · 2 ^ exponent`. -/
structure Binary64 where
  mantissa : Nat
  exponent : Int
  deriving DecidableEq, Repr, Inhabited

namespace Binary64

/-- All mantissas lie below. -/
def mantissaBound : Nat := 0x20000000000000

/-- The least mantissa of a number with a greater exponent than the least one. -/
def mantissaStart : Nat := 0x10000000000000

/-! ## Rounding -/

/-- The quotient rounded to a whole number, a tie going to the even neighbour. -/
def roundDiv (num den : Nat) : Nat :=
  let q := num / den
  let r := num % den
  if 2 * r < den then q
  else if den < 2 * r then q + 1
  else q + q % 2

/-- `num / den` in units of `2 ^ e`, as a numerator and a denominator. -/
def inUnits (num den : Nat) (e : Int) : Nat × Nat :=
  (num * Nat.pow 2 (-e).toNat, den * Nat.pow 2 e.toNat)

/-- The nearest number to `num / den`; there is none when that is too large. -/
def ofRatio? (num den : Nat) : Option Binary64 :=
  if num = 0 then some ⟨0, -1074⟩
  else
    let guess : Int := max ((num.log2 : Int) - (den.log2 : Int) - 53) (-1074)
    let floor := (inUnits num den guess).1 / (inUnits num den guess).2
    let e := if mantissaBound ≤ floor then guess + 1 else guess
    let m := roundDiv (inUnits num den e).1 (inUnits num den e).2
    let (m, e) := if m = mantissaBound then (mantissaStart, e + 1) else (m, e)
    if 971 < e then none else some ⟨m, e⟩

/-- The number as a numerator and a denominator. -/
def toRatio (x : Binary64) : Nat × Nat :=
  (x.mantissa * Nat.pow 2 x.exponent.toNat, Nat.pow 2 (-x.exponent).toNat)

/-- The nearest number to `digits · 10 ^ power`. An exponent far outside the format is decided
without forming the power. -/
def ofDecimal? (digits : Nat) (power : Int) : Option Binary64 :=
  let size : Int := (Nat.toDigits 10 digits).length
  if digits = 0 || size + power < -330 then some ⟨0, -1074⟩
  else if 320 < size + power then none
  else ofRatio? (digits * Nat.pow 10 power.toNat) (Nat.pow 10 (-power).toNat)

/-! ## The shortest decimal -/

/-- A decimal `digits · 10 ^ power`. -/
structure Decimal where
  digits : Nat
  power : Int
  deriving DecidableEq, Repr

/-- The decimal without zeros at the end of its digits. -/
def Decimal.trimmed (d : Decimal) : Decimal :=
  if d.digits ≠ 0 ∧ d.digits % 10 = 0 then Decimal.trimmed ⟨d.digits / 10, d.power + 1⟩ else d
termination_by d.digits
decreasing_by omega

/-- The power of ten of the leading digit of a positive quotient. -/
def leadingPower (num den : Nat) : Int :=
  if den ≤ num then ((Nat.toDigits 10 (num / den)).length : Int) - 1
  else -((Nat.toDigits 10 (den / num)).length : Int)

/-- A decimal with the power `power` that reads back as `x`: the neighbour of `x` on that grid
below it or above it, the nearer of the two when both do. -/
def onGrid? (x : Binary64) (power : Int) : Option Decimal :=
  let a := Nat.pow 10 power.toNat * Nat.pow 2 (2 - x.exponent).toNat
  let b := Nat.pow 2 (x.exponent - 2).toNat * Nat.pow 10 (-power).toNat
  let value := 4 * x.mantissa * b
  let below := if x.mantissa = mantissaStart && x.exponent ≠ -1074 then 1 else 2
  let low := (4 * x.mantissa - below) * b
  let high := (4 * x.mantissa + 2) * b
  let fits := fun c =>
    if x.mantissa % 2 = 0 then low ≤ c * a && c * a ≤ high else low < c * a && c * a < high
  let c := value / a
  match fits c, fits (c + 1) with
  | true, true => some ⟨if 2 * (value - c * a) ≤ a then c else c + 1, power⟩
  | true, false => some ⟨c, power⟩
  | false, true => some ⟨c + 1, power⟩
  | false, false => none

/-- The decimal of fewest digits that reads back as the number: seventeen digits always do. -/
def shortest (x : Binary64) : Decimal :=
  if x.mantissa = 0 then ⟨0, 0⟩
  else
    let lead := leadingPower x.toRatio.1 x.toRatio.2
    (((List.range 17).findSome? fun (n : Nat) => onGrid? x (lead - (n : Int))).getD ⟨0, 0⟩).trimmed

/-! ## Text -/

/-- The decimal written with a point, at least one digit on each side of it. -/
def Decimal.text (d : Decimal) : List Char :=
  let ds := Nat.toDigits 10 d.digits
  if 0 ≤ d.power then ds ++ List.replicate d.power.toNat '0' ++ ['.', '0']
  else
    let places := (-d.power).toNat
    let ds := List.replicate (places + 1 - ds.length) '0' ++ ds
    ds.take (ds.length - places) ++ ['.'] ++ ds.drop (ds.length - places)

/-- The fewest digits that read back, in positional notation. -/
def text (x : Binary64) : String := String.ofList x.shortest.text

end Binary64

end Gatekeeper.Numeral
