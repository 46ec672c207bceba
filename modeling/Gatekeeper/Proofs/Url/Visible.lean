import Gatekeeper.Proofs.Url.Host

/-!
# Hosts are written in visible characters

A host of an uninterpreted scheme is written in characters of ASCII that show, without a space among
them, whatever text it was read from (`Host.IsOpaque.visible`): a name has escapes for all others,
and an address has digits, colons and its brackets only.
-/

namespace Gatekeeper.Url

/-- A character of ASCII that shows: between the space and `U+007F`. -/
def IsVisibleAscii (c : Char) : Prop := 0x20 < c.toNat ∧ c.toNat < 0x7f

instance (c : Char) : Decidable (IsVisibleAscii c) := inferInstanceAs (Decidable (_ ∧ _))

theorem isVisibleAscii_of_isDigit {c : Char} (h : c.isDigit = true) : IsVisibleAscii c := by
  have range : 0x30 ≤ c.toNat ∧ c.toNat ≤ 0x39 := by
    simpa [Char.isDigit, UInt32.le_iff_toNat_le] using h
  unfold IsVisibleAscii
  omega

theorem isVisibleAscii_of_isHexDigit {c : Char} (h : Numeral.isHexDigit c = true) :
    IsVisibleAscii c := by
  have range := Numeral.toNat_of_isHexDigit h
  unfold IsVisibleAscii
  omega

/-! ## Names -/

/-- The space is refused in a name, and all that does not show is escaped. -/
theorem IsHostName.visible {t : List Char} (h : IsHostName t) : ∀ c ∈ t, IsVisibleAscii c := by
  intro c hc
  have plain := h.plain c hc
  simp only [isPlain, Bool.and_eq_true, decide_eq_true_eq] at plain
  have space : c.toNat ≠ 0x20 := by
    intro same
    obtain rfl : c = ' ' := Char.toNat_inj.1 same
    exact absurd (h.allowed ' ' hc) (by decide)
  unfold IsVisibleAscii
  omega

/-! ## Addresses -/

theorem Ipv6.visible_joined (ps : List Nat) : ∀ c ∈ joined ps, IsVisibleAscii c := by
  intro c hc
  induction ps with
  | nil => cases hc
  | cons x ps ih =>
    have digits : ∀ c ∈ Numeral.hexDigits x, IsVisibleAscii c :=
      fun c hc => isVisibleAscii_of_isHexDigit (Numeral.isHexDigit_of_mem_hexDigits hc)
    rcases ps with - | ⟨y, ps⟩
    · rw [joined_singleton] at hc
      exact digits c hc
    · rw [joined_cons_cons, List.mem_append] at hc
      rcases hc with hc | hc
      · exact digits c hc
      · rcases List.mem_cons.1 hc with rfl | hc
        · decide
        · exact ih hc

theorem Ipv6.visible_text (ps : List Nat) : ∀ c ∈ text ps, IsVisibleAscii c := by
  intro c hc
  unfold text at hc
  dsimp only at hc
  split at hc
  · exact visible_joined ps c hc
  · simp only [List.mem_append, List.mem_cons, List.not_mem_nil, or_false] at hc
    rcases hc with (hc | rfl | rfl) | hc
    · exact visible_joined _ c hc
    · decide
    · decide
    · exact visible_joined _ c hc

/-- **A host is written in visible characters.** -/
theorem Host.IsOpaque.visible {host : Host} (h : host.IsOpaque) :
    ∀ c ∈ host.text, IsVisibleAscii c := by
  cases host with
  | name t => exact IsHostName.visible h
  | ipv4 n => exact h.elim
  | ipv6 ps =>
    intro c hc
    simp only [text, List.mem_append, List.mem_cons, List.not_mem_nil, or_false] at hc
    rcases hc with (rfl | hc) | rfl
    · decide
    · exact Ipv6.visible_text ps c hc
    · decide

end Gatekeeper.Url
