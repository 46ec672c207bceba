import Gatekeeper.Proofs.Numeral.Hex
import Gatekeeper.Proofs.Text.Utf8
import Gatekeeper.Proofs.Url.Query

/-!
# Forms are read back from every spelling

A form writes a list of pairs as text, and it has a choice: a byte may be an escape with digits of
either case, a letter, a digit or one of four marks may stand for itself, a space may be a plus
sign, and any number of ampersands may stand between two pairs. `Spells` is the relation between a
list and all the texts that may be written for it, layer by layer as the format is made: bytes,
texts, pairs, lists. Every text has a spelling, the one of `Percent.encode` (`spellsText_encode`).

The signs that hold a form together stand in no spelling of bytes (`SpellsBytes.notMem`), so each
layer is taken apart where it was put together: `SpellsByte.bytes_append` for one byte with anything
behind it, `SpellsText.decode_eq`, `SpellsPair.pairs_eq` and, for the list, `Spells.pairs_eq`.
-/

namespace Gatekeeper.Url

/-! ## Escapes -/

namespace Percent

theorem decode_cons_of_ne {b : UInt8} (h : b ≠ 0x25) (t : List UInt8) :
    decode (b :: t) = b :: decode t := by
  rw [decode]
  rintro x y u rfl
  exact absurd rfl h

theorem decode_escape {h l : UInt8} {m n : Nat} (hm : digit? h = some m) (hn : digit? l = some n)
    (t : List UInt8) : decode (0x25 :: h :: l :: t) = UInt8.ofNat (16 * m + n) :: decode t := by
  rw [decode, hm, hn]

end Percent

namespace Form

/-! ## Spellings -/

/-- A character that may stand for itself: a letter or a digit of ASCII, or one of four marks. -/
def isSafe (c : Char) : Bool := c.isAlphanum || c = '-' || c = '.' || c = '_' || c = '*'

/-- The character is the hexadecimal digit of a number below sixteen, in either case. -/
def IsDigitOf (n : Nat) (c : Char) : Prop := c = Nat.digitChar n ∨ c = (Nat.digitChar n).toUpper

/-- The spellings of a byte. -/
inductive SpellsByte : UInt8 → List Char → Prop
  | safe {c : Char} (h : isSafe c = true) : SpellsByte (UInt8.ofNat c.toNat) [c]
  | escape {b : UInt8} {h l : Char} (high : IsDigitOf (b.toNat / 16) h)
    (low : IsDigitOf (b.toNat % 16) l) : SpellsByte b ['%', h, l]
  | plus : SpellsByte 0x20 ['+']

/-- The spellings of some bytes, each byte spelled in its own way. -/
inductive SpellsBytes : List UInt8 → List Char → Prop
  | nil : SpellsBytes [] []
  | cons {b : UInt8} {bs : List UInt8} {t u : List Char} (first : SpellsByte b t)
    (others : SpellsBytes bs u) : SpellsBytes (b :: bs) (t ++ u)

/-- The spellings of a text. -/
def SpellsText (s : String) (t : List Char) : Prop := SpellsBytes (Utf8.encode s.toList) t

/-- The spellings of a pair. -/
inductive SpellsPair : String × String → List Char → Prop
  | pair {k v : String} {t u : List Char} (key : SpellsText k t) (value : SpellsText v u) :
    SpellsPair (k, v) (t ++ '=' :: u)

/-- The spellings of a list of pairs: one ampersand or more between one pair and the next. -/
inductive Spells : List (String × String) → List Char → Prop
  | nil : Spells [] []
  | single {p : String × String} {t : List Char} (pair : SpellsPair p t) : Spells [p] t
  | cons {p q : String × String} {ps : List (String × String)} {t u : List Char}
    (first : SpellsPair p t) (n : Nat) (others : Spells (q :: ps) u) :
    Spells (p :: q :: ps) (t ++ List.replicate (n + 1) '&' ++ u)

variable {b : UInt8} {bs : List UInt8} {c : Char} {n : Nat} {s : String} {t : List Char}
  {p : String × String} {ps : List (String × String)}

/-! ## Characters -/

theorem toNat_of_isSafe (h : isSafe c = true) : c.toNat < 0x80 := by
  have code : c.val.toNat = c.toNat := rfl
  simp only [isSafe, Bool.or_eq_true, decide_eq_true_eq] at h
  rcases h with (((h | rfl) | rfl) | rfl) | rfl
  · delta Char.isAlphanum Char.isAlpha Char.isUpper Char.isLower Char.isDigit at h
    simp only [Bool.or_eq_true, Bool.and_eq_true, decide_eq_true_eq, ge_iff_le,
      UInt32.le_iff_toNat_le, code, Char.reduceVal, UInt32.reduceToNat] at h
    omega
  all_goals decide

theorem ne_of_isSafe (h : isSafe c = true) : c ≠ '+' ∧ c ≠ '%' := by
  constructor
  · rintro rfl
    cases h
  · rintro rfl
    cases h

theorem ofNat_toNat_ne (h : c.toNat < 0x80) (hc : c ≠ '%') : UInt8.ofNat c.toNat ≠ 0x25 := by
  intro he
  have code : c.toNat = '%'.toNat := by
    rw [← Utf8.toNat_ofNat_of_lt (show c.toNat < 256 by omega), he]
    rfl
  exact hc (Char.toNat_inj.1 code)

theorem isSafe_digitChar :
    ∀ n < 16, isSafe (Nat.digitChar n) = true ∧ isSafe (Nat.digitChar n).toUpper = true := by
  decide

theorem IsDigitOf.isSafe (h : IsDigitOf n c) (hn : n < 16) : isSafe c = true := by
  rcases h with rfl | rfl
  · exact (isSafe_digitChar n hn).1
  · exact (isSafe_digitChar n hn).2

theorem IsDigitOf.digit?_eq (h : IsDigitOf n c) (hn : n < 16) :
    Percent.digit? (UInt8.ofNat c.toNat) = some n := by
  have small := toNat_of_isSafe (h.isSafe hn)
  rw [Percent.digit?, Utf8.toNat_ofNat_of_lt (by omega), Char.ofNat_toNat]
  rcases h with rfl | rfl
  · exact Numeral.hexValue?_digitChar n hn
  · exact Numeral.hexValue?_toUpper_digitChar n hn

theorem div_lt (b : UInt8) : b.toNat / 16 < 16 := by
  have := b.toNat_lt
  omega

theorem mod_lt (b : UInt8) : b.toNat % 16 < 16 := Nat.mod_lt _ (by decide)

/-- What stands in the spelling of a byte. -/
theorem SpellsByte.mem (h : SpellsByte b t) (hc : c ∈ t) :
    isSafe c = true ∨ c = '%' ∨ c = '+' := by
  cases h with
  | safe h =>
    obtain rfl := List.mem_singleton.1 hc
    exact Or.inl h
  | escape high low =>
    simp only [List.mem_cons, List.not_mem_nil, or_false] at hc
    rcases hc with rfl | rfl | rfl
    · exact Or.inr (Or.inl rfl)
    · exact Or.inl (high.isSafe (div_lt b))
    · exact Or.inl (low.isSafe (mod_lt b))
  | plus => exact Or.inr (Or.inr (List.mem_singleton.1 hc))

theorem SpellsBytes.mem (h : SpellsBytes bs t) (hc : c ∈ t) :
    isSafe c = true ∨ c = '%' ∨ c = '+' := by
  induction h with
  | nil => exact absurd hc List.not_mem_nil
  | cons first _ ih =>
    rcases List.mem_append.1 hc with hc | hc
    · exact first.mem hc
    · exact ih hc

/-- The signs that hold a form together, and the one that may stand in front of it. -/
def signs : List Char := ['&', '=', '?']

theorem ne_of_mem_signs (h : c ∈ signs) : isSafe c = false ∧ c ≠ '%' ∧ c ≠ '+' := by
  simp only [signs, List.mem_cons, List.not_mem_nil, or_false] at h
  rcases h with rfl | rfl | rfl <;> exact ⟨rfl, by decide, by decide⟩

/-- No sign stands in a spelling of bytes. -/
theorem SpellsBytes.notMem (h : SpellsBytes bs t) (hc : c ∈ signs) : c ∉ t := by
  obtain ⟨other, percent, plus⟩ := ne_of_mem_signs hc
  intro hm
  rcases h.mem hm with safe | rfl | rfl
  · rw [other] at safe
    cases safe
  · exact percent rfl
  · exact plus rfl

/-! ## Texts -/

/-- The bytes that a text stands for in a form. -/
def bytes (t : List Char) : List UInt8 :=
  Percent.decode (Utf8.encode (t.map fun c => if c = '+' then ' ' else c))

theorem decode_eq (t : List Char) : Query.decode t = Utf8.decodeLossy (bytes t) := rfl

theorem bytes_cons (h : isSafe c = true) (t : List Char) :
    bytes (c :: t) = UInt8.ofNat c.toNat :: bytes t := by
  obtain ⟨plus, percent⟩ := ne_of_isSafe h
  have small := toNat_of_isSafe h
  rw [bytes, List.map_cons, if_neg plus, Utf8.encode_cons_of_lt small,
    Percent.decode_cons_of_ne (ofNat_toNat_ne small percent), ← bytes]

theorem bytes_escape {h l : Char} {m n : Nat} (hm : m < 16) (hn : n < 16) (high : IsDigitOf m h)
    (low : IsDigitOf n l) (t : List Char) :
    bytes ('%' :: h :: l :: t) = UInt8.ofNat (16 * m + n) :: bytes t := by
  have safe := high.isSafe hm
  have safe' := low.isSafe hn
  rw [bytes, List.map_cons, List.map_cons, List.map_cons, if_neg (by decide),
    if_neg (ne_of_isSafe safe).1, if_neg (ne_of_isSafe safe').1,
    Utf8.encode_cons_of_lt (by decide), Utf8.encode_cons_of_lt (toNat_of_isSafe safe),
    Utf8.encode_cons_of_lt (toNat_of_isSafe safe')]
  exact Percent.decode_escape (high.digit?_eq hm) (low.digit?_eq hn) _

theorem bytes_plus (t : List Char) : bytes ('+' :: t) = 0x20 :: bytes t := by
  rw [bytes, List.map_cons, if_pos rfl, Utf8.encode_cons_of_lt (by decide),
    Percent.decode_cons_of_ne (by decide), ← bytes]
  rfl

/-- A spelling of a byte is read as that byte, whatever stands behind it. -/
theorem SpellsByte.bytes_append (h : SpellsByte b t) (u : List Char) :
    bytes (t ++ u) = b :: bytes u := by
  cases h with
  | safe h => exact bytes_cons h u
  | escape high low =>
    have whole : 16 * (b.toNat / 16) + b.toNat % 16 = b.toNat := by omega
    have read := bytes_escape (div_lt b) (mod_lt b) high low u
    rw [whole, UInt8.ofNat_toNat] at read
    exact read
  | plus => exact bytes_plus u

theorem SpellsBytes.bytes_eq (h : SpellsBytes bs t) : bytes t = bs := by
  induction h with
  | nil => rfl
  | cons first _ ih => rw [first.bytes_append, ih]

/-- **A text is read back from every spelling.** -/
theorem SpellsText.decode_eq (h : SpellsText s t) : Query.decode t = s.toList := by
  have read : bytes t = Utf8.encode s.toList := SpellsBytes.bytes_eq h
  rw [Form.decode_eq, read, Utf8.decodeLossy_encode]

/-! ### The spelling that the encoder writes -/

theorem SpellsBytes.append {bs' : List UInt8} {t' : List Char} (h : SpellsBytes bs t)
    (h' : SpellsBytes bs' t') : SpellsBytes (bs ++ bs') (t ++ t') := by
  induction h with
  | nil => exact h'
  | cons first _ ih =>
    rw [List.append_assoc]
    exact SpellsBytes.cons first ih

theorem spellsByte_escape (b : UInt8) : SpellsByte b (Percent.escape b) := by
  have digits : Numeral.hexDigitsUpper 2 b.toNat =
      [(Nat.digitChar (b.toNat / 16)).toUpper, (Nat.digitChar (b.toNat % 16)).toUpper] := by
    by_cases hb : b.toNat < 16
    · have high : b.toNat / 16 = 0 := Nat.div_eq_of_lt hb
      have low : b.toNat % 16 = b.toNat := Nat.mod_eq_of_lt hb
      rw [Numeral.hexDigitsUpper, Nat.toDigits_of_lt_base hb, high, low]
      rfl
    · rw [Numeral.hexDigitsUpper, Nat.toDigits_of_base_le (by decide) (by omega),
        Nat.toDigits_of_lt_base (div_lt b)]
      rfl
  rw [Percent.escape, digits]
  exact SpellsByte.escape (Or.inr rfl) (Or.inr rfl)

theorem spellsBytes_escapes (bs : List UInt8) : SpellsBytes bs (bs.flatMap Percent.escape) := by
  induction bs with
  | nil => exact SpellsBytes.nil
  | cons b bs ih =>
    rw [List.flatMap_cons]
    exact SpellsBytes.cons (spellsByte_escape b) ih

theorem spellsText_encode (s : String) : SpellsText s (Percent.encode isSafe s.toList) := by
  rw [SpellsText, Utf8.encode, Percent.encode]
  induction s.toList with
  | nil => exact SpellsBytes.nil
  | cons c cs ih =>
    rw [List.flatMap_cons, List.flatMap_cons]
    refine SpellsBytes.append ?_ ih
    split
    · rename_i safe
      rw [Utf8.encodeChar, if_pos (toNat_of_isSafe safe)]
      exact SpellsBytes.cons (SpellsByte.safe safe) SpellsBytes.nil
    · exact spellsBytes_escapes _

/-! ## Pairs -/

open Query (pairs lookup?)

/-- In a pair there is one sign, between the key and the value. -/
theorem SpellsPair.notMem (h : SpellsPair p t) (hc : c ∈ signs) (other : c ≠ '=') : c ∉ t := by
  cases h with
  | pair key value =>
    rw [List.mem_append, List.mem_cons]
    rintro (h | h | h)
    · exact SpellsBytes.notMem key hc h
    · exact other h
    · exact SpellsBytes.notMem value hc h

theorem SpellsPair.pairs_eq (h : SpellsPair p t) : pairs t = [(p.1.toList, p.2.toList)] := by
  have whole : '&' ∉ t := h.notMem (by decide) (by decide)
  cases h with
  | @pair k v t u key value =>
    have sign : '=' ∉ t := SpellsBytes.notMem key (by decide)
    have nonempty : t ++ '=' :: u ≠ [] :=
      List.append_ne_nil_of_right_ne_nil _ (List.cons_ne_nil _ _)
    rw [Query.pairs_of_notMem whole nonempty, Query.pair_append sign, key.decode_eq,
      value.decode_eq]

/-! ## Lists -/

/-- **The pairs are read back from every spelling of a list**, in their order. -/
theorem Spells.pairs_eq (h : Spells ps t) : pairs t = ps.map fun p => (p.1.toList, p.2.toList) := by
  induction h with
  | nil => rfl
  | single pair => exact pair.pairs_eq
  | cons first n _ ih =>
    rw [List.replicate_succ, List.append_assoc, List.cons_append, Query.pairs_append,
      first.pairs_eq, Query.pairs_ampersands, ih]
    rfl

theorem Spells.notMem (h : Spells ps t) : '?' ∉ t := by
  induction h with
  | nil => exact List.not_mem_nil
  | single pair => exact pair.notMem (by decide) (by decide)
  | cons first n _ ih =>
    rw [List.mem_append, List.mem_append]
    rintro ((h | h) | h)
    · exact first.notMem (by decide) (by decide) h
    · exact absurd (List.eq_of_mem_replicate h) (by decide)
    · exact ih h

/-- A look-up in a spelling is a look-up in the list. -/
theorem Spells.lookup?_eq (h : Spells ps t) (key : String) :
    lookup? key.toList t = (ps.lookup key).map String.toList := by
  rw [lookup?, h.pairs_eq]
  clear h
  induction ps with
  | nil => rfl
  | cons p ps ih =>
    obtain ⟨k, v⟩ := p
    by_cases hk : k = key
    · subst hk
      rw [List.map_cons, List.find?_cons_of_pos (by simp), List.lookup_cons_self]
      rfl
    · have other : (key == k) = false := beq_false_of_ne (Ne.symm hk)
      have other' : k.toList ≠ key.toList := fun he => hk (String.toList_inj.1 he)
      rw [List.map_cons, List.find?_cons_of_neg (by simpa using other'), List.lookup_cons, other]
      exact ih

/-- **The first value of a key is read back from every spelling**, behind any number of question
marks. -/
theorem Spells.first?_eq (h : Spells ps t) (key : String) (n : Nat) :
    Query.first? key (String.ofList (List.replicate n '?' ++ t)) = ps.lookup key := by
  rw [Query.first?_eq, String.toList_ofList, Query.stripped_replicate n h.notMem, h.lookup?_eq,
    Option.map_map]
  cases ps.lookup key with
  | none => rfl
  | some v => exact congrArg some String.ofList_toList

end Form

end Gatekeeper.Url
