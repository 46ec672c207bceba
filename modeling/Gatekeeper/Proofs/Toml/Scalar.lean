import Gatekeeper.Proofs.Numeral.Decimal
import Gatekeeper.Proofs.Toml.Quoted
import Gatekeeper.Proofs.Toml.Token
import Gatekeeper.Toml.Document
import Mathlib.Data.List.TakeWhile

/-!
# Scalars

A `Scalar` is what can be written behind an equals sign: a text, a truth value or a natural number.
Written at the end of a line it is one token (`Scalar.isToken`), and that token says the same value
again (`Scalar.value_raw`).
-/

namespace Gatekeeper.Toml

/-! ## Numbers -/

namespace Word

variable {ds : List Char}

theorem misplaced?_of_digits (isDigit : Char → Bool) (before : Bool) (offset : Nat)
    (h : '_' ∉ ds) : misplaced? isDigit before offset ds = none := by
  induction ds generalizing before offset with
  | nil => rfl
  | cons d ds ih =>
    have hd : d ≠ '_' := fun hd => h (hd ▸ List.mem_cons_self)
    rw [misplaced?, if_neg hd,
      ih _ _ fun hd => h (List.mem_cons_of_mem _ hd)]

theorem underscoreFault?_of_digits (isDigit : Char → Bool) (start offset stop : Nat)
    (h : '_' ∉ ds) : underscoreFault? isDigit start offset stop ds = none := by
  rw [underscoreFault?, if_neg (h ∘ List.mem_of_head?), if_neg (h ∘ List.mem_of_getLast?),
    misplaced?_of_digits isDigit false offset h]

/-- Digits without a leading zero say the number that they spell. -/
theorem value_of_digits (hne : ds ≠ []) (hd : ∀ d ∈ ds, d.isDigit = true)
    (hz : ds.head? = some '0' → ds.length = 1) (offset : Nat) :
    value ⟨.word, ds, offset⟩ = .ok (.integer (Nat.ofDigitChars 10 ds 0 : Nat)) := by
  have spaced : '_' ∉ ds := fun h => absurd (hd _ h) (by decide)
  have plain : unspaced ds = ds := List.filter_eq_self.2 fun d h => by
    simpa using fun hu : d = '_' => spaced (hu ▸ h)
  have number : numberOrMoment ⟨.word, ds, offset⟩ false offset ds =
      .ok (.integer (Nat.ofDigitChars 10 ds 0 : Nat)) := by
    have all : ds.all Char.isDigit = true := List.all_eq_true.2 hd
    have rest : ds.dropWhile Char.isDigit = [] := List.dropWhile_eq_nil_iff.2 hd
    simp only [numberOrMoment, rest, integer, underscoreFault?_of_digits _ _ _ _ spaced, plain, all,
      if_true]
    rw [if_neg]
    · rfl
    · simp only [Bool.and_eq_true, decide_eq_true_eq, not_and]
      intro h
      have := hz h
      omega
  cases ds with
  | nil => exact absurd rfl hne
  | cons d ds =>
    have digit := hd d List.mem_cons_self
    have other : ∀ {w : List Char}, w.head?.map Char.isDigit = some false → d :: ds ≠ w := by
      rintro w hw rfl
      simp [digit] at hw
    have sign : ∀ {c : Char}, c.isDigit = false → d ≠ c := by
      rintro c hc rfl
      rw [hc] at digit
      cases digit
    simp only [value]
    rw [if_neg (other (by decide)), if_neg (other (by decide)), if_neg (other (by decide)),
      if_neg (other (by decide)), if_neg (sign rfl), if_neg (sign rfl), if_pos (by simp [digit])]
    unfold unsigned
    split
    · rename_i x t h
      obtain ⟨rfl, rfl⟩ := List.cons.inj h
      have := hz rfl
      simp at this
    · exact number

end Word

theorem value_toDigits (n offset : Nat) :
    Word.value ⟨.word, Nat.toDigits 10 n, offset⟩ = .ok (.integer n) := by
  rw [Word.value_of_digits Nat.toDigits_ne_nil
    (fun d hd => Nat.isDigit_of_mem_toDigits (by decide) (by decide) hd)
    (fun h => by rw [Numeral.eq_zero_of_head_toDigits h]; rfl),
    Nat.ofDigitChars_toDigits (by decide) (by decide)]

/-! ## Scalars -/

/-- A value that can be written behind an equals sign. -/
inductive Scalar
  | string (s : String)
  | boolean (b : Bool)
  | natural (n : Nat)
  deriving DecidableEq, Repr

namespace Scalar

/-- The scalar as it is written. -/
def text : Scalar → List Char
  | string s => stringText s
  | boolean b => booleanText b
  | natural n => Nat.toDigits 10 n

/-- The kind of its token. -/
def kind : Scalar → TokenKind
  | string s => (StringStyle.of s.toList).kind
  | boolean _ | natural _ => .word

/-- How it is spelled. -/
def spelling : Scalar → Spelling
  | string s => (StringStyle.of s.toList).spelling
  | boolean _ | natural _ => .word

/-- What it says. -/
def value : Scalar → Value
  | string s => .string s
  | boolean b => .boolean b
  | natural n => .integer n

theorem kind_ne_blank (v : Scalar) : v.kind ≠ .blank := by
  cases v with
  | string s =>
    simp only [kind]
    cases StringStyle.of s.toList <;> decide
  | boolean _ | natural _ => exact TokenKind.noConfusion

/-- A scalar at the end of a line is one token. -/
theorem isToken (v : Scalar) (t : List Char) : IsToken v.kind v.text ('\n' :: t) := by
  have ends : ∃ d u, '\n' :: t = d :: u ∧ endsWord d = true := ⟨_, _, rfl, by decide⟩
  cases v with
  | string s => exact isToken_styledText (StringStyle.holds_of s.toList) t
  | boolean b =>
    cases b <;> exact isToken_word (List.cons_ne_nil _ _) (List.all_eq_true.1 (by decide)) ends
  | natural n =>
    refine isToken_word Nat.toDigits_ne_nil (fun d hd => ?_) ends
    have digit := Nat.isDigit_of_mem_toDigits (by decide) (by decide) hd
    simp only [isKeyChar, Char.isAlphanum, digit, Bool.or_true, Bool.true_or]

theorem value_quoted {style : StringStyle} {text cs : List Char} {offset : Nat}
    (h : quotedText ⟨style.spelling, text, offset⟩ = .ok cs) :
    Raw.value ⟨style.spelling, text, offset⟩ = .ok (.string (String.ofList cs)) := by
  have read : Raw.value ⟨style.spelling, text, offset⟩ =
      (quotedText ⟨style.spelling, text, offset⟩).map fun cs => .string (String.ofList cs) := by
    cases style <;> rfl
  rw [read, h]
  rfl

/-- The token of a scalar says the scalar. -/
theorem value_raw (v : Scalar) (offset : Nat) :
    Raw.value ⟨v.spelling, v.text, offset⟩ = .ok v.value := by
  cases v with
  | string s =>
    have read := value_quoted (quotedText_styledText (StringStyle.holds_of s.toList) offset)
    rwa [String.ofList_toList] at read
  | boolean b => cases b <;> rfl
  | natural n => exact value_toDigits n offset

end Scalar

end Gatekeeper.Toml
