import Gatekeeper.Json.Reader
import Gatekeeper.Proofs.Numeral.Hex
import Gatekeeper.Proofs.Text.Utf8
import Mathlib.Data.List.TakeWhile

/-!
# Strings and numbers of JSON

The texts that spell a string (`SpellsString`) and a number (`SpellsNumber`), said without the
reader.

* In a string a character stands for itself or is escaped. Eight characters have an escape of one
  letter, and any character has a numbered one: four hexadecimal digits, or twice four for the
  halves of a character outside the basic plane.
* A number has a whole part without a leading zero, and may have a sign, a fraction and an exponent.

The readers of escapes and strings read exactly these texts (`escape?_eq_some_iff`,
`string?_eq_some_iff`). A number is read to its end, so what stands behind it has to be told apart
from it (`Follows`): `number?_append` and `spellsNumber_of_number?` are the two directions for
numbers.
-/

namespace Gatekeeper.Json

open Reader (Number)

/-! ## Spellings of strings -/

/-- Four hexadecimal digits, of either case, spell a number of sixteen bits. -/
structure SpellsUnit (ds : List Char) (n : Nat) : Prop where
  length : ds.length = 4
  digits : ∀ d ∈ ds, Numeral.isHexDigit d = true
  value : Numeral.ofHexDigits ds = n

/-- The escapes of one letter, each with the character that it stands for. -/
def shortEscapes : List (Char × Char) :=
  [('"', '"'), ('\\', '\\'), ('/', '/'), ('b', '\x08'), ('f', '\x0c'), ('n', '\n'), ('r', '\r'),
    ('t', '\t')]

/-- What stands behind the letter of a numbered escape. -/
inductive SpellsCode : List Char → Char → Prop
  | unit {ds : List Char} {c : Char} (code : SpellsUnit ds c.toNat) : SpellsCode ds c
  | halves {hs ls : List Char} {high low : Nat} {c : Char} (upper : SpellsUnit hs high)
    (lower : SpellsUnit ls low) (isHigh : 0xd800 ≤ high ∧ high ≤ 0xdbff)
    (isLow : 0xdc00 ≤ low ∧ low ≤ 0xdfff)
    (value : c.toNat = 0x10000 + (high - 0xd800) * 0x400 + (low - 0xdc00)) :
    SpellsCode (hs ++ '\\' :: 'u' :: ls) c

/-- What stands behind the backslash of an escape. -/
inductive SpellsEscape : List Char → Char → Prop
  | short {e c : Char} (h : (e, c) ∈ shortEscapes) : SpellsEscape [e] c
  | numbered {t : List Char} {c : Char} (code : SpellsCode t c) : SpellsEscape ('u' :: t) c

/-- A character of a string. Quotes, backslashes and control characters need an escape. -/
inductive SpellsChar : List Char → Char → Prop
  | plain {c : Char} (quote : c ≠ '"') (backslash : c ≠ '\\') (visible : 0x20 ≤ c.toNat) :
    SpellsChar [c] c
  | escaped {t : List Char} {c : Char} (escape : SpellsEscape t c) : SpellsChar ('\\' :: t) c

/-- The characters of a string, one behind the other. -/
inductive SpellsChars : List Char → List Char → Prop
  | nil : SpellsChars [] []
  | cons {t u : List Char} {c : Char} {cs : List Char} (first : SpellsChar t c)
    (others : SpellsChars u cs) : SpellsChars (t ++ u) (c :: cs)

/-- A string between its quotes. -/
def SpellsString (t : List Char) (s : String) : Prop :=
  ∃ u, t = '"' :: (u ++ ['"']) ∧ SpellsChars u s.toList

/-! ## Spellings of numbers -/

/-- Decimal digits, one at least. -/
structure IsDigits (ds : List Char) : Prop where
  ne_nil : ds ≠ []
  digits : ∀ c ∈ ds, c.isDigit = true

/-- A fraction, which may be missing. -/
inductive SpellsFraction : List Char → List Char → Prop
  | absent : SpellsFraction [] []
  | digits {ds : List Char} (h : IsDigits ds) : SpellsFraction ('.' :: ds) ds

/-- The sign of an exponent, which may be missing; true stands for the minus. -/
inductive SpellsSign : List Char → Bool → Prop
  | absent : SpellsSign [] false
  | plus : SpellsSign ['+'] false
  | minus : SpellsSign ['-'] true

/-- An exponent, which may be missing. -/
inductive SpellsExponent : List Char → Option (Bool × List Char) → Prop
  | absent : SpellsExponent [] none
  | digits {e : Char} {sign ds : List Char} {negative : Bool} (letter : e = 'e' ∨ e = 'E')
    (h : SpellsSign sign negative) (digits : IsDigits ds) :
    SpellsExponent (e :: (sign ++ ds)) (some (negative, ds))

/-- A number in its parts. -/
inductive SpellsNumber : List Char → Number → Prop
  | parts {negative : Bool} {whole t fraction u : List Char} {exponent : Option (Bool × List Char)}
    (digits : IsDigits whole) (lean : whole.head? = some '0' → whole.length = 1)
    (behindPoint : SpellsFraction t fraction) (power : SpellsExponent u exponent) :
    SpellsNumber ((if negative then ['-'] else []) ++ (whole ++ (t ++ u)))
      ⟨negative, whole, fraction, exponent⟩

variable {t u cs rest : List Char} {c : Char} {n : Nat}

theorem SpellsUnit.lt (h : SpellsUnit t n) : n < 65536 := by
  have bound := Numeral.ofHexDigits_lt_pow t
  rw [h.length, h.value] at bound
  exact bound

/-- What may stand behind a value: nothing, a blank, a comma, or a closing bracket. -/
def Follows (rest : List Char) : Prop :=
  ∀ c ∈ rest.head?, Reader.isBlank c = true ∨ c = ',' ∨ c = ']' ∨ c = '\x7d'

/-- Nothing of that carries a number on. -/
theorem Follows.ends_number (h : Follows rest) :
    ∀ c ∈ rest.head?, c.isDigit = false ∧ c ≠ '.' ∧ c ≠ 'e' ∧ c ≠ 'E' := by
  intro c hc
  have stops := h c hc
  simp only [Reader.isBlank, Bool.or_eq_true, decide_eq_true_eq] at stops
  rcases stops with (((rfl | rfl) | rfl) | rfl) | rfl | rfl | rfl <;> decide

theorem IsDigits.exists_cons {ds : List Char} (h : IsDigits ds) :
    ∃ c v, ds = c :: v ∧ c.isDigit = true := by
  obtain ⟨c, v, rfl⟩ := List.exists_cons_of_ne_nil h.ne_nil
  exact ⟨c, v, rfl, h.digits c List.mem_cons_self⟩

theorem SpellsChars.length_le {us : List Char} (h : SpellsChars t us) : us.length ≤ t.length := by
  induction h with
  | nil => exact Nat.le_refl _
  | @cons t u c cs first others ih =>
    have one : 1 ≤ t.length := by
      cases first with
      | plain quote backslash visible => exact Nat.le_refl _
      | escaped escape => exact Nat.succ_pos _
    rw [List.length_append, List.length_cons]
    omega

namespace Reader

/-! ## Reading strings -/

theorem fourHex?_eq_some_iff :
    fourHex? cs = some (n, rest) ↔ ∃ ds, cs = ds ++ rest ∧ SpellsUnit ds n := by
  constructor
  · intro h
    unfold fourHex? at h
    split at h
    · rename_i a b c d t
      split at h
      · rename_i digits
        cases h
        exact ⟨[a, b, c, d], rfl, rfl, List.all_eq_true.1 digits, rfl⟩
      · cases h
    · cases h
  · rintro ⟨ds, rfl, length, digits, value⟩
    obtain - | ⟨a, - | ⟨b, - | ⟨c, - | ⟨d, - | ⟨e, es⟩⟩⟩⟩⟩ := ds <;>
      simp only [List.length_cons, List.length_nil] at length <;> try omega
    have all : [a, b, c, d].all Numeral.isHexDigit = true := List.all_eq_true.2 digits
    simp only [List.cons_append, List.nil_append, fourHex?, all, if_true, value]

theorem numbered?_eq_some_iff :
    numbered? cs = some (c, rest) ↔ ∃ t, cs = t ++ rest ∧ SpellsCode t c := by
  constructor
  · intro h
    simp only [numbered?, Option.bind_eq_bind, Option.bind_eq_some_iff, Prod.exists] at h
    obtain ⟨high, v, first, h⟩ := h
    obtain ⟨ds, rfl, upper⟩ := fourHex?_eq_some_iff.1 first
    split at h
    · rename_i isHigh
      rw [Bool.and_eq_true, decide_eq_true_eq, decide_eq_true_eq] at isHigh
      split at h
      · simp only [Option.bind_eq_some_iff, Prod.exists] at h
        obtain ⟨low, v, second, h⟩ := h
        obtain ⟨es, rfl, lower⟩ := fourHex?_eq_some_iff.1 second
        split at h
        · rename_i isLow
          rw [Bool.and_eq_true, decide_eq_true_eq, decide_eq_true_eq] at isLow
          obtain ⟨rfl, rfl⟩ := Prod.mk.inj (Option.some.inj h)
          exact ⟨ds ++ '\\' :: 'u' :: es, by simp, .halves upper lower isHigh isLow
            (Utf8.toNat_ofNat_of_valid (by omega))⟩
        · cases h
      · cases h
    · rename_i isHigh
      split at h
      · cases h
      · rename_i isLow
        cases h
        simp only [Bool.and_eq_true, decide_eq_true_eq, not_and, Nat.not_le] at isHigh isLow
        have small := upper.lt
        have value := Utf8.toNat_ofNat_of_valid (n := high) (by omega)
        exact ⟨ds, rfl, .unit (by rwa [value])⟩
  · rintro ⟨t, rfl, code⟩
    cases code with
    | unit code =>
      have first := fourHex?_eq_some_iff.2 ⟨t, (rfl : t ++ rest = t ++ rest), code⟩
      -- The number of a character is that of no half.
      have valid : c.toNat < 0xd800 ∨ 0xdfff < c.toNat ∧ c.toNat < 0x110000 := c.valid
      rw [numbered?, first]
      simp only [Option.bind_eq_bind, Option.bind_some, Bool.and_eq_true, decide_eq_true_eq]
      rw [if_neg (by omega), if_neg (by omega), Char.ofNat_toNat]
    | halves upper lower isHigh isLow value =>
      rename_i hs ls high low
      have first := fourHex?_eq_some_iff.2
        ⟨hs, (rfl : hs ++ '\\' :: 'u' :: (ls ++ rest) = _), upper⟩
      have second := fourHex?_eq_some_iff.2 ⟨ls, (rfl : ls ++ rest = ls ++ rest), lower⟩
      rw [List.append_assoc, List.cons_append, List.cons_append, numbered?, first]
      simp only [Option.bind_eq_bind, Option.bind_some, second, Bool.and_eq_true,
        decide_eq_true_eq, isHigh, isLow, and_self, if_true, ← value, Char.ofNat_toNat]

theorem escape?_eq_some_iff :
    escape? cs = some (c, rest) ↔ ∃ t, cs = t ++ rest ∧ SpellsEscape t c := by
  constructor
  · intro h
    unfold escape? at h
    split at h
    case h_9 =>
      obtain ⟨t, rfl, code⟩ := numbered?_eq_some_iff.1 h
      exact ⟨'u' :: t, rfl, .numbered code⟩
    case h_10 => cases h
    all_goals
      cases h
      exact ⟨[_], rfl, .short (by decide)⟩
  · rintro ⟨t, rfl, escape⟩
    cases escape with
    | short h =>
      simp only [shortEscapes, List.mem_cons, Prod.mk.injEq, List.not_mem_nil, or_false] at h
      rcases h with ⟨rfl, rfl⟩ | ⟨rfl, rfl⟩ | ⟨rfl, rfl⟩ | ⟨rfl, rfl⟩ | ⟨rfl, rfl⟩ | ⟨rfl, rfl⟩ |
        ⟨rfl, rfl⟩ | ⟨rfl, rfl⟩ <;> rfl
    | numbered code => exact numbered?_eq_some_iff.2 ⟨_, rfl, code⟩

/-- Characters are read up to the closing quote. -/
theorem characters?_append {us : List Char} (h : SpellsChars t us) {fuel : Nat}
    (enough : us.length < fuel) (rest : List Char) :
    characters? fuel (t ++ '"' :: rest) = some (us, rest) := by
  induction h generalizing fuel with
  | nil =>
    obtain ⟨fuel, rfl⟩ := Nat.exists_eq_add_of_lt enough
    rfl
  | @cons t u c cs first others ih =>
    obtain - | fuel := fuel
    · cases enough
    · have next := ih (Nat.lt_of_succ_lt_succ enough)
      cases first with
      | plain quote backslash visible =>
        simp only [List.cons_append, List.nil_append, characters?]
        rw [if_neg quote, if_neg backslash, if_neg (Nat.not_lt.2 visible), next]
        rfl
      | @escaped t c escape =>
        have read := escape?_eq_some_iff.2 ⟨t, (rfl : t ++ (u ++ '"' :: rest) = _), escape⟩
        simp only [List.cons_append, List.append_assoc, characters?]
        rw [if_neg (by decide), if_true, read]
        simp only [Option.bind_eq_bind, Option.bind_some, next]

/-- What is read up to a closing quote are characters. -/
theorem spellsChars_of_characters? {fuel : Nat} {us : List Char}
    (h : characters? fuel cs = some (us, rest)) :
    ∃ t, cs = t ++ '"' :: rest ∧ SpellsChars t us := by
  induction fuel generalizing cs us with
  | zero => cases h
  | succ fuel ih =>
    rcases cs with - | ⟨c, cs⟩
    · cases h
    · simp only [characters?] at h
      split at h
      · rename_i quote
        cases h
        exact ⟨[], by rw [quote, List.nil_append], .nil⟩
      · rename_i quote
        split at h
        · rename_i backslash
          simp only [Option.bind_eq_bind, Option.bind_eq_some_iff, Prod.exists,
            Option.some.injEq, Prod.mk.injEq] at h
          obtain ⟨d, v, escape, ds, w, others, rfl, rfl⟩ := h
          obtain ⟨t, rfl, first⟩ := escape?_eq_some_iff.1 escape
          obtain ⟨u, rfl, spelled⟩ := ih others
          exact ⟨'\\' :: t ++ u, by simp [backslash], .cons (.escaped first) spelled⟩
        · rename_i backslash
          split at h
          · cases h
          · rename_i visible
            simp only [Option.bind_eq_bind, Option.bind_eq_some_iff, Prod.exists,
              Option.some.injEq, Prod.mk.injEq] at h
            obtain ⟨ds, w, others, rfl, rfl⟩ := h
            obtain ⟨u, rfl, spelled⟩ := ih others
            exact ⟨[c] ++ u, rfl, .cons (.plain quote backslash (Nat.not_lt.1 visible)) spelled⟩

/-- **A string is read after its opening quote** as what it spells. -/
theorem string?_eq_some_iff {s : String} :
    string? cs = some (s, rest) ↔ ∃ t, cs = t ++ '"' :: rest ∧ SpellsChars t s.toList := by
  rw [string?, Option.map_eq_some_iff]
  constructor
  · rintro ⟨⟨us, w⟩, h, same⟩
    cases same
    rw [String.toList_ofList]
    exact spellsChars_of_characters? h
  · rintro ⟨t, rfl, h⟩
    have enough := h.length_le
    refine ⟨(s.toList, rest), characters?_append h ?_ rest, ?_⟩
    · simp only [List.length_append, List.length_cons]
      omega
    · simp only [String.ofList_toList]

/-! ## Reading numbers -/

/-- Digits are cut off where no digit follows. -/
theorem span_digits {ds : List Char} (h : ∀ c ∈ ds, c.isDigit = true)
    (stop : ∀ c ∈ rest.head?, c.isDigit = false) :
    (ds ++ rest).takeWhile Char.isDigit = ds ∧ (ds ++ rest).dropWhile Char.isDigit = rest := by
  rw [List.takeWhile_append_of_pos h, List.dropWhile_append_of_pos h]
  rcases rest with - | ⟨c, rest⟩
  · exact ⟨List.append_nil _, rfl⟩
  · have other : ¬ c.isDigit = true := by simp [stop c rfl]
    rw [List.takeWhile_cons_of_neg other, List.dropWhile_cons_of_neg other, List.append_nil]
    exact ⟨rfl, rfl⟩

theorem isDigits_takeWhile (h : ¬ (cs.takeWhile Char.isDigit).isEmpty = true) :
    IsDigits (cs.takeWhile Char.isDigit) :=
  ⟨by simpa using h, fun _ hc => List.mem_takeWhile_imp hc⟩

theorem fraction?_append {ds : List Char} (h : SpellsFraction t ds)
    (stop : ∀ c ∈ rest.head?, c.isDigit = false ∧ c ≠ '.') :
    fraction? (t ++ rest) = some (ds, rest) := by
  cases h with
  | absent =>
    rcases rest with - | ⟨c, rest⟩
    · rfl
    · simp [fraction?, (stop c rfl).2]
  | digits h =>
    obtain ⟨taken, left⟩ := span_digits h.digits fun c hc => (stop c hc).1
    simp only [List.cons_append, fraction?, taken, left]
    rw [if_neg (by simpa using h.ne_nil)]

theorem spellsFraction_of_fraction? {ds : List Char} (h : fraction? cs = some (ds, rest)) :
    ∃ t, cs = t ++ rest ∧ SpellsFraction t ds := by
  unfold fraction? at h
  split at h
  · rename_i t
    split at h
    · cases h
    · rename_i some
      cases h
      exact ⟨'.' :: t.takeWhile Char.isDigit, by simp [List.takeWhile_append_dropWhile],
        .digits (isDigits_takeWhile some)⟩
  · cases h
    exact ⟨[], rfl, .absent⟩

theorem exponent?_append {e : Option (Bool × List Char)} (h : SpellsExponent t e)
    (follows : Follows rest) : exponent? (t ++ rest) = some (e, rest) := by
  have stop := follows.ends_number
  cases h with
  | absent =>
    rcases rest with - | ⟨c, rest⟩
    · rfl
    · simp [exponent?, (stop c rfl).2.2.1, (stop c rfl).2.2.2]
  | @digits e sign ds negative letter h digits =>
    obtain ⟨taken, left⟩ := span_digits digits.digits fun c hc => (stop c hc).1
    have letter : (e = 'e' || e = 'E') = true := by simpa using letter
    have some : ds.isEmpty = false := List.isEmpty_eq_false_iff.2 digits.ne_nil
    simp only [List.cons_append, List.append_assoc, exponent?, letter, if_true]
    cases h with
    | absent =>
      obtain ⟨c, v, same, digit⟩ := digits.exists_cons
      -- A digit is no sign.
      have unsigned : ∀ s ∈ ['-', '+'], c ≠ s := by
        rintro s hs rfl
        simp only [List.mem_cons, List.not_mem_nil, or_false] at hs
        rcases hs with rfl | rfl <;> exact absurd digit (by decide)
      split
      · rename_i cut
        rw [same] at cut
        exact absurd (List.cons.inj cut).1 (unsigned '-' (by decide))
      · rename_i cut
        rw [same] at cut
        exact absurd (List.cons.inj cut).1 (unsigned '+' (by decide))
      · simp only [List.nil_append, taken, left, some, Bool.false_eq_true, if_false]
    | plus => simp only [List.cons_append, List.nil_append, taken, left, some, Bool.false_eq_true,
        if_false]
    | minus => simp only [List.cons_append, List.nil_append, taken, left, some,
        Bool.false_eq_true, if_false]

theorem spellsExponent_of_exponent? {e : Option (Bool × List Char)}
    (h : exponent? cs = some (e, rest)) : ∃ t, cs = t ++ rest ∧ SpellsExponent t e := by
  unfold exponent? at h
  split at h
  · rename_i c t
    split at h
    · rename_i letter
      have letter : c = 'e' ∨ c = 'E' := by simpa using letter
      -- The sign that is cut off, and the digits behind it.
      have split_sign : ∀ {negative : Bool} {sign v : List Char}, t = sign ++ v →
          SpellsSign sign negative →
          (if (v.takeWhile Char.isDigit).isEmpty then none
            else some (some (negative, v.takeWhile Char.isDigit), v.dropWhile Char.isDigit)) =
              some (e, rest) →
          ∃ w, c :: t = w ++ rest ∧ SpellsExponent w e := by
        rintro negative sign v rfl spelled h
        split at h
        · cases h
        · rename_i some
          cases h
          exact ⟨c :: (sign ++ v.takeWhile Char.isDigit),
            by simp [List.takeWhile_append_dropWhile],
            .digits letter spelled (isDigits_takeWhile some)⟩
      split at h
      rename_i negative v cut
      split at cut
      · cases cut
        exact split_sign rfl .minus h
      · cases cut
        exact split_sign rfl .plus h
      · cases cut
        exact split_sign rfl .absent h
    · cases h
      exact ⟨[], rfl, .absent⟩
  · cases h
    exact ⟨[], rfl, .absent⟩

/-- What stands behind the whole part is no digit, whether there is a fraction or not. -/
theorem head_fraction {ds : List Char} (h : SpellsFraction t ds)
    (stop : ∀ c ∈ rest.head?, c.isDigit = false) : ∀ c ∈ (t ++ rest).head?, c.isDigit = false := by
  cases h with
  | absent => exact stop
  | digits h =>
    rintro c ⟨⟩
    decide

/-- What stands behind a fraction carries it on no further, whether there is an exponent or not. -/
theorem head_exponent {e : Option (Bool × List Char)} (h : SpellsExponent t e)
    (follows : Follows rest) : ∀ c ∈ (t ++ rest).head?, c.isDigit = false ∧ c ≠ '.' := by
  cases h with
  | absent => exact fun c hc => ⟨(follows.ends_number c hc).1, (follows.ends_number c hc).2.1⟩
  | digits letter h digits =>
    rintro c ⟨⟩
    rcases letter with rfl | rfl <;> decide

/-- **A number is read to its end**, where something follows that is told apart from it. -/
theorem number?_append {x : Number} (h : SpellsNumber t x) (follows : Follows rest) :
    number? (t ++ rest) = some (x, rest) := by
  obtain ⟨digits, lean, behindPoint, power⟩ := h
  rename_i negative whole t fraction u exponent
  have stop := head_exponent power follows
  obtain ⟨taken, left⟩ := span_digits digits.digits
    (head_fraction behindPoint fun c hc => (stop c hc).1)
  obtain ⟨c, v, same, digit⟩ := digits.exists_cons
  have lean : (whole.isEmpty || (whole.head? = some '0' && whole.length ≠ 1)) = false := by
    rw [List.isEmpty_eq_false_iff.2 digits.ne_nil, Bool.false_or, Bool.and_eq_false_imp]
    exact fun zero => by simpa using lean (of_decide_eq_true zero)
  have behind := fraction?_append behindPoint stop
  rw [List.append_assoc, List.append_assoc, List.append_assoc]
  generalize signed : (if negative then ['-'] else []) ++ (whole ++ (t ++ (u ++ rest))) = text
  unfold number?
  split
  rename_i sign unsigned cut
  -- The sign is cut off; a digit is none.
  obtain ⟨rfl, rfl⟩ : negative = sign ∧ whole ++ (t ++ (u ++ rest)) = unsigned := by
    cases negative with
    | true =>
      subst signed
      exact Prod.mk.inj cut
    | false =>
      subst signed
      rw [same] at cut ⊢
      split at cut
      · rename_i minus
        obtain ⟨rfl, -⟩ := List.cons.inj minus
        exact absurd digit (by decide)
      · exact Prod.mk.inj cut
  simp only [taken, left, lean, Bool.false_eq_true, if_false, behind,
    exponent?_append power follows, Option.bind_eq_bind, Option.bind_some]

/-- What is read is a number. -/
theorem spellsNumber_of_number? {x : Number} (h : number? cs = some (x, rest)) :
    ∃ t, cs = t ++ rest ∧ SpellsNumber t x := by
  have unsigned : ∀ {negative : Bool} {v : List Char},
      cs = (if negative then ['-'] else []) ++ v →
      (if ((v.takeWhile Char.isDigit).isEmpty || ((v.takeWhile Char.isDigit).head? = some '0' &&
          (v.takeWhile Char.isDigit).length ≠ 1)) = true then none
        else (fraction? (v.dropWhile Char.isDigit)).bind fun p => (exponent? p.2).bind fun q =>
          some (⟨negative, v.takeWhile Char.isDigit, p.1, q.1⟩, q.2)) = some (x, rest) →
      ∃ t, cs = t ++ rest ∧ SpellsNumber t x := by
    rintro negative v rfl h
    split at h
    · cases h
    · rename_i lean
      simp only [Bool.or_eq_true, Bool.and_eq_true, decide_eq_true_eq, not_or, not_and,
        Decidable.not_not] at lean
      simp only [Option.bind_eq_some_iff, Prod.exists] at h
      obtain ⟨fraction, w, behind, exponent, w', power, h⟩ := h
      cases h
      obtain ⟨t, left, spelledFraction⟩ := spellsFraction_of_fraction? behind
      obtain ⟨u, rfl, spelledExponent⟩ := spellsExponent_of_exponent? power
      refine ⟨_, ?_, .parts (isDigits_takeWhile lean.1) lean.2 spelledFraction spelledExponent⟩
      simp only [List.append_assoc]
      rw [← left, List.takeWhile_append_dropWhile]
  unfold number? at h
  split at h
  rename_i negative v cut
  split at cut
  · cases cut
    exact unsigned rfl h
  · cases cut
    exact unsigned rfl h

end Reader

end Gatekeeper.Json
