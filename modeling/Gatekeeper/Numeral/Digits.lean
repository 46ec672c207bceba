/-!
# Numerals

Digits of natural numbers in base ten and sixteen. Writing is the standard library's
`Nat.toDigits`; this module adds the readers, which refuse an empty text and any character that is
no digit.

Main statements: a number is read back from its decimal digits (`read?_toDigits`), and what is
read holds digits only (`isDigit_of_read?`).
-/

namespace Gatekeeper.Numeral

/-- The value of a non-empty run of decimal digits. -/
def read? (ds : List Char) : Option Nat :=
  if !ds.isEmpty && ds.all Char.isDigit then some (Nat.ofDigitChars 10 ds 0) else none

theorem read?_toDigits (n : Nat) : read? (Nat.toDigits 10 n) = some n := by
  have hne : (Nat.toDigits 10 n).isEmpty = false := by
    simp [Nat.toDigits_ne_nil]
  have hall : (Nat.toDigits 10 n).all Char.isDigit = true :=
    List.all_eq_true.2 fun _ hc => Nat.isDigit_of_mem_toDigits (by decide) (by decide) hc
  simp [read?, hne, hall, Nat.ofDigitChars_toDigits]

theorem isDigit_of_read? {ds : List Char} {n : Nat} (h : read? ds = some n) :
    ∀ c ∈ ds, c.isDigit = true := by
  intro c hc
  unfold read? at h
  split at h
  · rename_i hd
    exact List.all_eq_true.1 (Bool.and_eq_true_iff.1 hd).2 c hc
  · cases h

/-- A number of 64 bits: decimal digits, after a plus sign or not. -/
def readUInt64? (s : String) : Option UInt64 :=
  let ds := match s.toList with
    | '+' :: ds => ds
    | ds => ds
  match read? ds with
  | some n => if n < UInt64.size then some (UInt64.ofNat n) else none
  | none => none

/-- The value of a hexadecimal digit of either case. -/
def hexValue? (c : Char) : Option Nat :=
  if c.isDigit then some (c.toNat - 0x30)
  else if 'a' ≤ c && c ≤ 'f' then some (c.toNat - 0x61 + 10)
  else if 'A' ≤ c && c ≤ 'F' then some (c.toNat - 0x41 + 10)
  else none

/-- A hexadecimal digit of either case. -/
def isHexDigit (c : Char) : Bool := (hexValue? c).isSome

/-- The value of a run of hexadecimal digits; other characters count as zero. -/
def ofHexDigits (ds : List Char) : Nat :=
  ds.foldl (fun n c => 16 * n + (hexValue? c).getD 0) 0

/-- The hexadecimal digits of a number, small letters, no leading zero. -/
def hexDigits (n : Nat) : List Char := Nat.toDigits 16 n

/-- The hexadecimal digits of a number with capital letters, filled with zeros to a width. -/
def hexDigitsUpper (width n : Nat) : List Char :=
  let ds := (Nat.toDigits 16 n).map Char.toUpper
  List.replicate (width - ds.length) '0' ++ ds

end Gatekeeper.Numeral
