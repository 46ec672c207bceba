import Gatekeeper.Numeral.Digits

/-!
# Hexadecimal digits

What is written in base sixteen is read back, in small letters (`ofHexDigits_hexDigits`) and in
capitals behind any number of zeros (`ofHexDigits_hexDigitsUpper`). The digits are hexadecimal
digits (`isHexDigit_of_mem_hexDigits`, `isHexDigit_of_mem_hexDigitsUpper`), and there are as many as
the width asks for where the number is small enough (`length_hexDigitsUpper`).
-/

namespace Gatekeeper.Numeral

variable {n : Nat} {c : Char}

/-! ## Single digits -/

theorem hexValue?_digitChar : ∀ d < 16, hexValue? (Nat.digitChar d) = some d := by decide

theorem hexValue?_toUpper_digitChar :
    ∀ d < 16, hexValue? (Nat.digitChar d).toUpper = some d := by decide

theorem isHexDigit_iff : isHexDigit c = true ↔ ∃ d, hexValue? c = some d := Option.isSome_iff_exists

/-- A hexadecimal digit is a digit or one of twelve letters, and its value is its place among
them. -/
theorem toNat_of_hexValue? {d : Nat} (h : hexValue? c = some d) :
    (0x30 ≤ c.toNat ∧ c.toNat ≤ 0x39 ∧ d = c.toNat - 0x30) ∨
      (0x61 ≤ c.toNat ∧ c.toNat ≤ 0x66 ∧ d = c.toNat - 0x61 + 10) ∨
      (0x41 ≤ c.toNat ∧ c.toNat ≤ 0x46 ∧ d = c.toNat - 0x41 + 10) := by
  unfold hexValue? at h
  split at h
  · rename_i hd
    simp only [Char.isDigit, Bool.and_eq_true, decide_eq_true_eq, ge_iff_le,
      UInt32.le_iff_toNat_le] at hd
    exact Or.inl ⟨hd.1, hd.2, (Option.some.inj h).symm⟩
  split at h
  · rename_i hd
    simp only [Bool.and_eq_true, decide_eq_true_eq, Char.le_def, UInt32.le_iff_toNat_le] at hd
    exact Or.inr (Or.inl ⟨hd.1, hd.2, (Option.some.inj h).symm⟩)
  split at h
  · rename_i hd
    simp only [Bool.and_eq_true, decide_eq_true_eq, Char.le_def, UInt32.le_iff_toNat_le] at hd
    exact Or.inr (Or.inr ⟨hd.1, hd.2, (Option.some.inj h).symm⟩)
  · cases h

/-- A hexadecimal digit is a character of ASCII. -/
theorem toNat_of_isHexDigit (h : isHexDigit c = true) :
    (0x30 ≤ c.toNat ∧ c.toNat ≤ 0x39) ∨ (0x41 ≤ c.toNat ∧ c.toNat ≤ 0x46) ∨
      (0x61 ≤ c.toNat ∧ c.toNat ≤ 0x66) := by
  obtain ⟨d, hd⟩ := isHexDigit_iff.1 h
  have := toNat_of_hexValue? hd
  omega

/-- Characters that are no digits count as zero, so this holds of every character. -/
theorem hexValue?_getD_lt (c : Char) : (hexValue? c).getD 0 < 16 := by
  cases h : hexValue? c with
  | none => decide
  | some d =>
    have := toNat_of_hexValue? h
    rw [Option.getD_some]
    omega

/-! ## Numbers -/

theorem ofHexDigits_append_singleton (ds : List Char) (c : Char) :
    ofHexDigits (ds ++ [c]) = 16 * ofHexDigits ds + (hexValue? c).getD 0 := by
  simp only [ofHexDigits, List.foldl_append, List.foldl_cons, List.foldl_nil]

theorem ofHexDigits_lt_pow (ds : List Char) : ofHexDigits ds < Nat.pow 16 ds.length := by
  have grow : ∀ n, ds.foldl (fun n c => 16 * n + (hexValue? c).getD 0) n <
      (n + 1) * Nat.pow 16 ds.length := by
    induction ds with
    | nil => intro n; simp
    | cons d ds ih =>
      intro n
      have := hexValue?_getD_lt d
      refine Nat.lt_of_lt_of_le (ih _) ?_
      have next : Nat.pow 16 (d :: ds).length = 16 * Nat.pow 16 ds.length := Nat.mul_comm _ _
      rw [next, ← Nat.mul_assoc]
      exact Nat.mul_le_mul_right _ (by dsimp only; omega)
  simpa [ofHexDigits] using grow 0

/-- The digits may be written in any form in which each keeps its value. -/
theorem ofHexDigits_map_toDigits {f : Char → Char}
    (h : ∀ d < 16, hexValue? (f (Nat.digitChar d)) = some d) (n : Nat) :
    ofHexDigits ((Nat.toDigits 16 n).map f) = n := by
  induction n using Nat.strongRecOn with
  | ind n ih =>
    by_cases hn : n < 16
    · rw [Nat.toDigits_of_lt_base hn]
      simp only [List.map_cons, List.map_nil, ofHexDigits, List.foldl_cons, List.foldl_nil, h n hn,
        Option.getD_some]
      omega
    · rw [Nat.toDigits_of_base_le (by decide) (by omega), List.map_append, List.map_singleton,
        ofHexDigits_append_singleton, ih (n / 16) (by omega), h _ (Nat.mod_lt _ (by decide)),
        Option.getD_some]
      omega

theorem exists_of_mem_toDigits (h : c ∈ Nat.toDigits 16 n) : ∃ d < 16, c = Nat.digitChar d := by
  induction n using Nat.strongRecOn with
  | ind n ih =>
    by_cases hn : n < 16
    · rw [Nat.toDigits_of_lt_base hn, List.mem_singleton] at h
      exact ⟨n, hn, h⟩
    · rw [Nat.toDigits_of_base_le (by decide) (by omega), List.mem_append, List.mem_singleton] at h
      rcases h with h | h
      · exact ih (n / 16) (by omega) h
      · exact ⟨n % 16, Nat.mod_lt _ (by decide), h⟩

/-! ## Small letters -/

theorem ofHexDigits_hexDigits (n : Nat) : ofHexDigits (hexDigits n) = n := by
  have value := ofHexDigits_map_toDigits (f := id) hexValue?_digitChar n
  rwa [List.map_id] at value

theorem isHexDigit_of_mem_hexDigits (h : c ∈ hexDigits n) : isHexDigit c = true := by
  obtain ⟨d, hd, rfl⟩ := exists_of_mem_toDigits h
  exact isHexDigit_iff.2 ⟨d, hexValue?_digitChar d hd⟩

theorem hexDigits_ne_nil (n : Nat) : hexDigits n ≠ [] := Nat.toDigits_ne_nil

theorem length_hexDigits_le {w : Nat} (hw : 0 < w) (h : n < Nat.pow 16 w) :
    (hexDigits n).length ≤ w :=
  (Nat.length_toDigits_le_iff (by decide) hw).2 h

/-! ## Capitals -/

theorem foldl_replicate_zero (k : Nat) (ds : List Char) :
    ofHexDigits (List.replicate k '0' ++ ds) = ofHexDigits ds := by
  induction k with
  | zero => rfl
  | succ k ih => exact ih

theorem ofHexDigits_hexDigitsUpper (w n : Nat) : ofHexDigits (hexDigitsUpper w n) = n := by
  simp only [hexDigitsUpper, foldl_replicate_zero]
  exact ofHexDigits_map_toDigits hexValue?_toUpper_digitChar n

theorem isHexDigit_of_mem_hexDigitsUpper {w : Nat} (h : c ∈ hexDigitsUpper w n) :
    isHexDigit c = true := by
  simp only [hexDigitsUpper, List.mem_append, List.mem_map] at h
  rcases h with h | ⟨e, he, rfl⟩
  · obtain rfl := List.eq_of_mem_replicate h
    decide
  · obtain ⟨d, hd, rfl⟩ := exists_of_mem_toDigits he
    exact isHexDigit_iff.2 ⟨d, hexValue?_toUpper_digitChar d hd⟩

theorem length_hexDigitsUpper {w : Nat} (hw : 0 < w) (h : n < Nat.pow 16 w) :
    (hexDigitsUpper w n).length = w := by
  have short := length_hexDigits_le hw h
  rw [hexDigits] at short
  simp only [hexDigitsUpper, List.length_append, List.length_replicate, List.length_map]
  omega

end Gatekeeper.Numeral
