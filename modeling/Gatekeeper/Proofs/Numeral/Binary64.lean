import Gatekeeper.Numeral.Binary64

/-!
# Numbers beyond double precision

A quotient has a nearest number of double precision unless it reaches `limit`, the middle between
the greatest of these numbers and the next power of two (`ofRatio?_eq_none_iff`). The same holds of
decimals (`ofDecimal?_eq_none_iff`), whose shortcuts for exponents far outside the format decide
rightly.

The exponent that is guessed from the lengths of numerator and denominator is one too small at most,
so only a quotient whose exponent is `971` needs a look at its mantissa.
-/

namespace Gatekeeper.Numeral.Binary64

variable {num den : Nat}

/-- The middle between the greatest mantissa and their bound, in units of `2 ^ (k + 1)`. -/
def halfway (k : Nat) : Nat := 0x3fffffffffffff * Nat.pow 2 k

/-- The middle between the greatest number and the next power of two, `(2 ^ 54 - 1) * 2 ^ 970`. -/
def limit : Nat := halfway 970

/-- A quotient is rounded up to the bound of mantissas from half a unit below it on. -/
theorem roundDiv_eq_bound_iff (h : num < mantissaBound * den) :
    roundDiv num den = mantissaBound ↔ 0x3fffffffffffff * den ≤ 2 * num := by
  have parts : den * (num / den) + num % den = num := Nat.div_add_mod num den
  have pos : 0 < den := Nat.pos_of_ne_zero fun zero => by simp [zero] at h
  have small : num % den < den := Nat.mod_lt _ pos
  have below : num / den < mantissaBound := Nat.div_lt_of_lt_mul (by rwa [Nat.mul_comm])
  rw [mantissaBound] at below ⊢
  unfold roundDiv
  generalize num / den = q at parts below ⊢
  generalize num % den = r at parts small ⊢
  dsimp only
  by_cases last : q = 0x1fffffffffffff
  · subst last
    split
    · omega
    · split <;> omega
  · have far : den * q ≤ den * 0x1ffffffffffffe := Nat.mul_le_mul_left _ (by omega)
    refine iff_of_false ?_ (by omega)
    split
    · omega
    · split <;> omega

/-- The exponent of the unit in which the mantissa of a quotient is told. -/
def unit (num den : Nat) : Int :=
  let guess : Int := max ((num.log2 : Int) - (den.log2 : Int) - 53) (-1074)
  if mantissaBound ≤ (inUnits num den guess).1 / (inUnits num den guess).2 then guess + 1 else guess

theorem ofRatio?_eq_none_iff_unit (hn : num ≠ 0) : ofRatio? num den = none ↔
    971 < unit num den ∨ (unit num den = 971 ∧
      roundDiv (inUnits num den 971).1 (inUnits num den 971).2 = mantissaBound) := by
  have unfolded : ofRatio? num den =
      let e := unit num den
      let m := roundDiv (inUnits num den e).1 (inUnits num den e).2
      if 971 < (if m = mantissaBound then (mantissaStart, e + 1) else (m, e)).2 then none
      else some ⟨(if m = mantissaBound then (mantissaStart, e + 1) else (m, e)).1,
        (if m = mantissaBound then (mantissaStart, e + 1) else (m, e)).2⟩ := by
    rw [ofRatio?, if_neg hn]
    rfl
  rw [unfolded]
  dsimp only
  generalize unit num den = e
  by_cases top : e = 971
  · subst top
    split <;> simp [*]
  · split
    · split <;> simp <;> omega
    · simp [top]

theorem pow_two_pos (k : Nat) : 0 < Nat.pow 2 k := Nat.two_pow_pos k

theorem halfway_pos (k : Nat) : 0 < halfway k := Nat.mul_pos (by decide) (pow_two_pos k)

theorem pow_two_succ (k : Nat) : Nat.pow 2 (k + 1) = 2 * Nat.pow 2 k := Nat.pow_succ'

theorem inUnits_natCast (k : Nat) : inUnits num den k = (num, den * Nat.pow 2 k) := by
  rw [inUnits, Int.toNat_natCast, Int.toNat_neg_natCast]
  simp

/-- The unit is the least power of two of which a quotient has less than the bound of mantissas. -/
theorem unit_le_iff (hn : num ≠ 0) (hd : den ≠ 0) (k : Nat) :
    unit num den ≤ k ↔ num < mantissaBound * (den * Nat.pow 2 k) := by
  have numLow : 2 ^ num.log2 ≤ num := Nat.log2_self_le hn
  have numHigh : num < 2 ^ (num.log2 + 1) := Nat.lt_log2_self
  have denLow : 2 ^ den.log2 ≤ den := Nat.log2_self_le hd
  have denHigh : den < 2 ^ (den.log2 + 1) := Nat.lt_log2_self
  have scaled (d : Nat) : mantissaBound * (d * Nat.pow 2 k) = d * 2 ^ (53 + k) := by
    rw [Nat.pow_add, Nat.mul_left_comm]
    rfl
  rw [scaled]
  unfold unit
  dsimp only
  generalize hg : max ((num.log2 : Int) - (den.log2 : Int) - 53) (-1074) = guess
  rcases Int.lt_trichotomy guess k with before | rfl | after
  · -- The guess is one too small at most.
    refine iff_of_true (by split <;> omega) ?_
    calc num < 2 ^ (num.log2 + 1) := numHigh
      _ ≤ 2 ^ (den.log2 + (53 + k)) := Nat.pow_le_pow_right (by decide) (by omega)
      _ = 2 ^ den.log2 * 2 ^ (53 + k) := Nat.pow_add ..
      _ ≤ den * 2 ^ (53 + k) := Nat.mul_le_mul_right _ denLow
  · have pos : 0 < den * Nat.pow 2 k := Nat.mul_pos (Nat.pos_of_ne_zero hd) (pow_two_pos k)
    rw [inUnits_natCast, ← scaled]
    simp only [Nat.le_div_iff_mul_le pos]
    split <;> omega
  · refine iff_of_false (by split <;> omega) (Nat.not_lt.2 ?_)
    calc den * 2 ^ (53 + k) ≤ 2 ^ (den.log2 + 1) * 2 ^ (53 + k) :=
          Nat.mul_le_mul_right _ (Nat.le_of_lt denHigh)
      _ = 2 ^ (den.log2 + 1 + (53 + k)) := (Nat.pow_add ..).symm
      _ ≤ 2 ^ num.log2 := Nat.pow_le_pow_right (by decide) (by omega)
      _ ≤ num := numLow

/-- A mantissa reaches its bound, be it by rounding, from the middle below it on. -/
theorem reaches_bound_iff (hn : num ≠ 0) (hd : den ≠ 0) (k : Nat) :
    (k + 1 : Int) < unit num den ∨ (unit num den = k + 1 ∧
        roundDiv (inUnits num den (k + 1)).1 (inUnits num den (k + 1)).2 = mantissaBound) ↔
      halfway k * den ≤ num := by
  have double : den * Nat.pow 2 (k + 1) = 2 * (den * Nat.pow 2 k) := by
    rw [pow_two_succ, Nat.mul_left_comm]
  have middle : halfway k * den = 0x3fffffffffffff * (den * Nat.pow 2 k) := by
    rw [halfway, Nat.mul_assoc, Nat.mul_comm den]
  have units : inUnits num den (k + 1) = (num, den * Nat.pow 2 (k + 1)) := inUnits_natCast (k + 1)
  have below := unit_le_iff hn hd k
  have within := unit_le_iff hn hd (k + 1)
  have pos : 0 < den * Nat.pow 2 k := Nat.mul_pos (Nat.pos_of_ne_zero hd) (pow_two_pos k)
  rw [mantissaBound] at below
  rw [double, mantissaBound] at within
  rw [middle, units, double]
  generalize den * Nat.pow 2 k = p at *
  rcases Int.lt_trichotomy (unit num den) (k + 1) with less | same | more
  · exact iff_of_false (by omega) (by omega)
  · have inside : num < mantissaBound * (2 * p) := by
      rw [mantissaBound]
      omega
    rw [roundDiv_eq_bound_iff inside]
    omega
  · exact iff_of_true (.inl more) (by omega)

/-- **A quotient has no nearest number exactly when it reaches the limit.** -/
theorem ofRatio?_eq_none_iff (hd : den ≠ 0) : ofRatio? num den = none ↔ limit * den ≤ num := by
  by_cases hn : num = 0
  · subst hn
    have pos : 0 < limit * den := Nat.mul_pos (halfway_pos 970) (Nat.pos_of_ne_zero hd)
    rw [ofRatio?, if_pos rfl]
    exact iff_of_false nofun (Nat.not_le.2 pos)
  · rw [ofRatio?_eq_none_iff_unit hn]
    exact reaches_bound_iff hn hd 970

/-! ## Decimals -/

theorem pow_ten_pos (k : Nat) : 0 < Nat.pow 10 k := Nat.pow_pos (by decide)

theorem pow_ten_add (m n : Nat) : Nat.pow 10 (m + n) = Nat.pow 10 m * Nat.pow 10 n :=
  Nat.pow_add ..

theorem limit_mul_le (n : Nat) : limit * Nat.pow 10 n ≤ Nat.pow 10 (320 + n) := by
  have shift (k : Nat) (le : limit ≤ Nat.pow 10 k) :
      limit * Nat.pow 10 n ≤ Nat.pow 10 (k + n) := by
    rw [pow_ten_add]
    exact Nat.mul_le_mul_right _ le
  exact shift 320 (by decide +kernel)

/-- A number other than zero is as large as its digits are many. -/
theorem pow_le_of_length {n : Nat} (hn : n ≠ 0) :
    Nat.pow 10 ((Nat.toDigits 10 n).length - 1) ≤ n := by
  have pos : 0 < (Nat.toDigits 10 n).length := Nat.length_toDigits_pos
  by_cases one : (Nat.toDigits 10 n).length = 1
  · rw [one]
    exact Nat.pos_of_ne_zero hn
  · have short := Nat.length_toDigits_le_iff (b := 10) (n := n)
      (k := (Nat.toDigits 10 n).length - 1) (by decide) (by omega)
    exact Nat.not_lt.1 fun less => absurd (short.2 less) (by omega)

theorem lt_pow_length (n : Nat) : n < Nat.pow 10 (Nat.toDigits 10 n).length :=
  (Nat.length_toDigits_le_iff (by decide) Nat.length_toDigits_pos).1 (Nat.le_refl _)

/-- **A decimal has no nearest number exactly when it reaches the limit.** -/
theorem ofDecimal?_eq_none_iff (digits : Nat) (power : Int) : ofDecimal? digits power = none ↔
    limit * Nat.pow 10 (-power).toNat ≤ digits * Nat.pow 10 power.toNat := by
  have short := lt_pow_length digits
  unfold ofDecimal?
  dsimp only
  generalize hs : (Nat.toDigits 10 digits).length = size at short
  by_cases zero : digits = 0
  · subst zero
    have pos : 0 < limit * Nat.pow 10 (-power).toNat :=
      Nat.mul_pos (halfway_pos 970) (pow_ten_pos _)
    exact iff_of_false (by simp) (by omega)
  have long := pow_le_of_length zero
  rw [hs] at long
  by_cases tiny : (size : Int) + power < -330
  · refine iff_of_false (by simp [tiny]) (Nat.not_le.2 ?_)
    calc digits * Nat.pow 10 power.toNat = digits := by
          rw [Int.toNat_of_nonpos (by omega)]
          exact Nat.mul_one digits
      _ < Nat.pow 10 size := short
      _ ≤ Nat.pow 10 (-power).toNat := Nat.pow_le_pow_right (by decide) (by omega)
      _ ≤ limit * Nat.pow 10 (-power).toNat := Nat.le_mul_of_pos_left _ (halfway_pos 970)
  by_cases huge : 320 < (size : Int) + power
  · refine iff_of_true (by simp [zero, tiny, huge]) ?_
    calc limit * Nat.pow 10 (-power).toNat
        ≤ Nat.pow 10 (320 + (-power).toNat) := limit_mul_le _
      _ ≤ Nat.pow 10 (size - 1 + power.toNat) := Nat.pow_le_pow_right (by decide) (by omega)
      _ = Nat.pow 10 (size - 1) * Nat.pow 10 power.toNat := pow_ten_add ..
      _ ≤ digits * Nat.pow 10 power.toNat := Nat.mul_le_mul_right _ long
  · rw [if_neg (by simp [zero, tiny]), if_neg huge]
    exact ofRatio?_eq_none_iff (Nat.ne_of_gt (pow_ten_pos _))

end Gatekeeper.Numeral.Binary64
