import Gatekeeper.Proofs.Numeral.Hex
import Gatekeeper.Toml.Text
import Gatekeeper.Toml.Writer

/-!
# The styles of a string

What the writer relies on when it picks a style, and how it spells the characters of a basic string.

* A literal style shows its text as it is, so it can hold some texts only (`StringStyle.Holds`). The
  style that is picked can hold its text (`StringStyle.holds_of`).
* A basic string is a row of pieces (`Piece`): a character that stands for itself, a backslash with
  a letter, or a numbered escape. `basicChars_cons` takes the first piece off; besides pieces there
  are only quotes that are still free to stand as they are.

Readers of strings go by pieces, so what is shown here of a piece is all they need of the writer.
-/

namespace Gatekeeper.Toml

/-! ## Texts that a literal string shows -/

/-- No character of the text needs a numbered escape. -/
def Uncoded (cs : List Char) : Prop := ∀ c ∈ cs, needsCode c = false

theorem isControl_of_needsCode {c : Char} (h : needsCode c = false) (hn : c ≠ '\n') :
    isControl c = false := by
  simp only [needsCode, isControl, hn, ne_eq, not_false_eq_true, decide_true, Bool.and_true] at h ⊢
  exact h

theorem le_longestRunFrom (q : Char) (run : Nat) (cs : List Char) :
    run ≤ longestRunFrom q run cs := by
  induction cs generalizing run with
  | nil => exact Nat.le_refl _
  | cons c cs ih =>
    rw [longestRunFrom]
    split
    · exact Nat.le_trans (Nat.le_succ _) (ih _)
    · exact Nat.le_max_left ..

theorem three_le_longestRunFrom (q : Char) (run : Nat) (cs t : List Char) :
    3 ≤ longestRunFrom q run (cs ++ q :: q :: q :: t) := by
  induction cs generalizing run with
  | nil =>
    have := le_longestRunFrom q (run + 1 + 1 + 1) t
    simp only [List.nil_append, longestRunFrom, if_true]
    omega
  | cons c cs ih =>
    rw [List.cons_append, longestRunFrom]
    split
    · exact ih _
    · exact Nat.le_trans (ih 0) (Nat.le_max_right ..)

/-- No quote stands three times in a row. -/
theorem ne_of_longestRun_le {q : Char} {cs : List Char} (h : longestRun q cs ≤ 2)
    (before after : List Char) : cs ≠ before ++ q :: q :: q :: after := by
  rintro rfl
  have := three_le_longestRunFrom q 0 before after
  rw [longestRun] at h
  omega

namespace StringStyle

/-- The style can hold the text. -/
def Holds : StringStyle → List Char → Prop
  | basic, _ | basicBlock, _ => True
  | literal, cs => Uncoded cs ∧ '\'' ∉ cs ∧ '\n' ∉ cs
  | literalBlock, cs => Uncoded cs ∧ longestRun '\'' cs ≤ 2

/-- The style that is picked can hold the text. -/
theorem holds_of (cs : List Char) : (StringStyle.of cs).Holds cs := by
  have uncoded : cs.any needsCode = false → Uncoded cs := fun h c hc => by
    simpa using List.any_eq_false.1 h c hc
  have absent : ∀ {q : Char}, cs.contains q = false → q ∉ cs := fun h hq => by
    simp [hq] at h
  unfold StringStyle.of
  dsimp only
  split
  · exact trivial
  split
  · rename_i h
    simp only [Bool.and_eq_true, Bool.not_eq_true'] at h
    exact ⟨uncoded h.1.1, absent h.1.2, absent h.2⟩
  split
  · exact trivial
  split
  · rename_i h
    simp only [Bool.and_eq_true, Bool.not_eq_true', decide_eq_true_eq] at h
    exact ⟨uncoded h.1, h.2⟩
  split <;> exact trivial

end StringStyle

/-! ## Pieces of a basic string -/

/-- A spelling of a character in a basic string. -/
inductive Piece (block : Bool) (c : Char) : List Char → Prop
  /-- The character stands for itself; a line end does so in a block only. -/
  | plain (quote : c ≠ '"') (backslash : c ≠ '\\')
      (control : isControl c = false ∨ c = '\n' ∧ block = true) : Piece block c [c]
  /-- A backslash and a letter. -/
  | letter {e : Char} (h : escapedChar? e = some c) : Piece block c ['\\', e]
  /-- The number of the character in four digits. -/
  | number (h : c.toNat < 0x80) : Piece block c ('\\' :: 'u' :: Numeral.hexDigitsUpper 4 c.toNat)

theorem piece_basicChar {c : Char} (hq : c ≠ '"') (block : Bool) :
    Piece block c (basicChar block c) := by
  unfold basicChar
  by_cases hb : c = '\x08'
  · subst hb
    exact .letter rfl
  by_cases ht : c = '\t'
  · subst ht
    exact .letter rfl
  by_cases hn : c = '\n'
  · subst hn
    cases block with
    | true => exact .plain hq (by decide) (Or.inr ⟨rfl, rfl⟩)
    | false => exact .letter rfl
  by_cases hf : c = '\x0c'
  · subst hf
    exact .letter rfl
  by_cases hr : c = '\r'
  · subst hr
    exact .letter rfl
  by_cases hs : c = '\\'
  · subst hs
    exact .letter rfl
  rw [if_neg hb, if_neg ht, if_neg hn, if_neg hf, if_neg hr, if_neg hs]
  cases hc : needsCode c with
  | true =>
    refine .number ?_
    simp only [needsCode, Bool.or_eq_true, Bool.and_eq_true, decide_eq_true_eq] at hc
    omega
  | false => exact .plain hq hs (Or.inl (isControl_of_needsCode hc hn))

/-- A basic string begins with a quote that is free to stand, or with a piece. -/
theorem basicChars_cons (block : Bool) (most free : Nat) (c : Char) (cs : List Char) :
    (∃ left, c = '"' ∧ free = left + 1 ∧
      basicChars block most free (c :: cs) = '"' :: basicChars block most left cs) ∨
    ∃ u, Piece block c u ∧
      basicChars block most free (c :: cs) = u ++ basicChars block most most cs := by
  by_cases hq : c = '"'
  · subst hq
    cases free with
    | zero => exact Or.inr ⟨['\\', '"'], .letter rfl, rfl⟩
    | succ left => exact Or.inl ⟨left, rfl, rfl, rfl⟩
  · refine Or.inr ⟨_, piece_basicChar hq block, ?_⟩
    rw [basicChars.eq_def]
    exact if_neg hq

/-- A piece does not begin with a quote. -/
theorem Piece.head {block : Bool} {c : Char} {u : List Char} (h : Piece block c u) :
    ∃ x t, u = x :: t ∧ x ≠ '"' := by
  cases h with
  | plain quote _ _ => exact ⟨c, [], rfl, quote⟩
  | letter _ => exact ⟨_, _, rfl, by decide⟩
  | number _ => exact ⟨_, _, rfl, by decide⟩

end Gatekeeper.Toml
