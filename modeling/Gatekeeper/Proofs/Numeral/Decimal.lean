import Gatekeeper.Numeral.Digits

/-!
# Decimal numbers of 64 bits

The texts that `readUInt64?` reads, told without the reader: a plus sign or none, then at least one
digit, with as many zeros in front as one likes, and a value below `2 ^ 64`
(`readUInt64?_eq_some_iff`).
-/

namespace Gatekeeper.Numeral

variable {ds : List Char} {n : Nat}

/-- The text is a row of digits, after a plus sign or none, and their value is the number. -/
def SpellsUInt64 (s : String) (n : UInt64) : Prop :=
  ∃ sign ds : List Char, s.toList = sign ++ ds ∧ (sign = [] ∨ sign = ['+']) ∧ ds ≠ [] ∧
    (∀ c ∈ ds, '0' ≤ c ∧ c ≤ '9') ∧ Nat.ofDigitChars 10 ds 0 = n.toNat

/-- The digits of a number begin with a zero only when it is zero. -/
theorem eq_zero_of_head_toDigits {n : Nat} (h : (Nat.toDigits 10 n).head? = some '0') :
    n = 0 := by
  induction n using Nat.strongRecOn with
  | ind n ih =>
    by_cases hn : n < 10
    · rw [Nat.toDigits_of_lt_base hn] at h
      have zero : ∀ d < 10, Nat.digitChar d = '0' → d = 0 := by decide
      exact zero n hn (Option.some.inj h)
    · obtain ⟨c, t, hc⟩ := List.exists_cons_of_ne_nil (Nat.toDigits_ne_nil (b := 10) (n := n / 10))
      rw [Nat.toDigits_of_base_le (by decide) (by omega), hc] at h
      have := ih (n / 10) (by omega) (by rw [hc]; exact h)
      omega

theorem isDigit_iff {c : Char} : c.isDigit = true ↔ '0' ≤ c ∧ c ≤ '9' := by
  rw [Char.isDigit, Bool.and_eq_true, decide_eq_true_eq, decide_eq_true_eq]
  rfl

theorem read?_eq_some_iff :
    read? ds = some n ↔ ds ≠ [] ∧ (∀ c ∈ ds, c.isDigit = true) ∧ Nat.ofDigitChars 10 ds 0 = n := by
  unfold read?
  split
  · rename_i shape
    simp only [Bool.and_eq_true, Bool.not_eq_true', List.isEmpty_eq_false_iff, List.all_eq_true]
      at shape
    rw [Option.some.injEq]
    exact ⟨fun value => ⟨shape.1, shape.2, value⟩, fun h => h.2.2⟩
  · rename_i shape
    refine iff_of_false (by simp) ?_
    rintro ⟨ne_nil, digits, -⟩
    exact shape (by simp [ne_nil, List.all_eq_true.2 digits])

/-- A sign is taken where there is one, and the number is read from what follows. -/
theorem exists_sign (s : String) : ∃ sign ds : List Char, s.toList = sign ++ ds ∧
    (sign = ['+'] ∨ sign = [] ∧ ds.head? ≠ some '+') ∧
    readUInt64? s = match read? ds with
      | some n => if n < UInt64.size then some (UInt64.ofNat n) else none
      | none => none := by
  unfold readUInt64?
  rcases hs : s.toList with - | ⟨c, cs⟩
  · exact ⟨[], [], rfl, .inr ⟨rfl, nofun⟩, rfl⟩
  · by_cases plus : c = '+'
    · subst plus
      exact ⟨['+'], cs, rfl, .inl rfl, rfl⟩
    · refine ⟨[], c :: cs, rfl, .inr ⟨rfl, fun h => plus (Option.some.inj h)⟩, ?_⟩
      split
      · rename_i same
        exact absurd (List.cons.inj same).1 plus
      · rfl

/-- **The reader of numbers of 64 bits reads what spells them**, and nothing else. -/
theorem readUInt64?_eq_some_iff {s : String} {n : UInt64} :
    readUInt64? s = some n ↔ SpellsUInt64 s n := by
  obtain ⟨sign, ds, hs, hsign, read⟩ := exists_sign s
  rw [read]
  constructor
  · intro h
    split at h
    · rename_i m value
      obtain ⟨ne_nil, digits, value⟩ := read?_eq_some_iff.1 value
      split at h
      · rename_i small
        obtain rfl := Option.some.inj h
        refine ⟨sign, ds, hs, hsign.elim .inr fun none => .inl none.1, ne_nil,
          fun c hc => isDigit_iff.1 (digits c hc), ?_⟩
        rw [value, UInt64.toNat_ofNat_of_lt' small]
      · cases h
    · cases h
  · rintro ⟨sign', ds', hs', hsign', ne_nil, digits, value⟩
    have isDigit : ∀ c ∈ ds', c.isDigit = true := fun c hc => isDigit_iff.2 (digits c hc)
    -- A plus sign is no digit, so both take the same sign off.
    obtain rfl : ds = ds' := by
      rw [hs] at hs'
      rcases hsign with rfl | ⟨rfl, unsigned⟩
      · rcases hsign' with rfl | rfl
        · rw [List.nil_append] at hs'
          exact absurd (isDigit '+' (hs' ▸ List.mem_cons_self)) (by decide)
        · exact List.append_cancel_left hs'
      · rcases hsign' with rfl | rfl
        · exact List.append_cancel_left hs'
        · rw [List.nil_append] at hs'
          exact absurd (congrArg List.head? hs') unsigned
    rw [read?_eq_some_iff.2 ⟨ne_nil, isDigit, value⟩]
    dsimp only
    rw [if_pos n.toNat_lt, UInt64.ofNat_toNat]

end Gatekeeper.Numeral
