import Gatekeeper.Text.Utf8

/-!
# Texts are read back from their bytes

The bytes of a character are those of the standard library (`encodeChar_eq`), one to four of them.
For each length one lemma says that `first` finds the character again (`first_two`, `first_three`,
`first_four`): the bytes are in the ranges it looks for, and their payloads put the code point
together. The converse stands beside it (`encodeChar_two`, `encodeChar_three`, `encodeChar_four`):
bytes in those ranges are the bytes of the character that they put together.

So both readers read a text back from its bytes (`decode?_encode`, `decodeLossy_encode`), and the
strict one reads nothing else (`decode?_eq_some_iff`): the bytes that it takes are those that the
standard library calls valid (`isValid_iff_exists`).
-/

namespace Gatekeeper.Utf8

variable {n : Nat}

/-! ## Bytes -/

theorem toNat_ofNat_of_lt (h : n < 256) : (UInt8.ofNat n).toNat = n := by
  rw [UInt8.toNat_ofNat']
  exact Nat.mod_eq_of_lt h

/-- The payload of a byte that carries on a character. -/
theorem toNat_tail (n : Nat) : (UInt8.ofNat (0x80 + n % 64)).toNat = 0x80 + n % 64 :=
  toNat_ofNat_of_lt (by omega)

theorem isTail_tail (n : Nat) : isTail (0x80 + n % 64) = true := by
  simp only [isTail, Bool.and_eq_true, decide_eq_true_eq]
  omega

/-! ## Single characters -/

theorem first_one (h : n < 0x80) (t : List UInt8) :
    first (UInt8.ofNat n) t = (some (Char.ofNat n), 0) := by
  simp only [first, toNat_ofNat_of_lt (show n < 256 by omega), if_pos h]

theorem first_two (h : 0x80 ≤ n) (h' : n < 0x800) (t : List UInt8) :
    first (UInt8.ofNat (0xc0 + n / 64)) (UInt8.ofNat (0x80 + n % 64) :: t) =
      (some (Char.ofNat n), 1) := by
  have whole : (0xc0 + n / 64 - 0xc0) * 64 + (0x80 + n % 64 - 0x80) = n := by omega
  simp only [first, toNat_ofNat_of_lt (show 0xc0 + n / 64 < 256 by omega), List.take_succ_cons,
    List.map_cons, toNat_tail, isTail_tail, whole, if_true]
  rw [if_neg (by omega), if_neg (by simp only [Bool.or_eq_true, decide_eq_true_eq]; omega),
    if_pos (by omega)]

theorem first_three (h : 0x800 ≤ n) (h' : n < 0x10000) (hs : n < 0xd800 ∨ 0xdfff < n)
    (t : List UInt8) :
    first (UInt8.ofNat (0xe0 + n / 4096))
        (UInt8.ofNat (0x80 + n / 64 % 64) :: UInt8.ofNat (0x80 + n % 64) :: t) =
      (some (Char.ofNat n), 2) := by
  -- The second byte keeps out the forms that are too long and the surrogates.
  have second : isSecond (0xe0 + n / 4096) (0x80 + n / 64 % 64) = true := by
    rw [isSecond, Bool.and_eq_true, decide_eq_true_iff, decide_eq_true_iff, secondRange]
    repeat' split
    all_goals dsimp only; omega
  have whole : (0xe0 + n / 4096 - 0xe0) * 4096 + (0x80 + n / 64 % 64 - 0x80) * 64 +
      (0x80 + n % 64 - 0x80) = n := by omega
  simp only [first, toNat_ofNat_of_lt (show 0xe0 + n / 4096 < 256 by omega), List.take_succ_cons,
    List.map_cons, toNat_tail, isTail_tail, second, whole, Bool.not_true, Bool.false_eq_true,
    if_false]
  rw [if_neg (by omega), if_neg (by simp only [Bool.or_eq_true, decide_eq_true_eq]; omega),
    if_neg (by omega), if_pos (by omega)]

theorem first_four (h : 0x10000 ≤ n) (h' : n < 0x110000) (t : List UInt8) :
    first (UInt8.ofNat (0xf0 + n / 262144))
        (UInt8.ofNat (0x80 + n / 4096 % 64) :: UInt8.ofNat (0x80 + n / 64 % 64) ::
          UInt8.ofNat (0x80 + n % 64) :: t) =
      (some (Char.ofNat n), 3) := by
  have second : isSecond (0xf0 + n / 262144) (0x80 + n / 4096 % 64) = true := by
    rw [isSecond, Bool.and_eq_true, decide_eq_true_iff, decide_eq_true_iff, secondRange]
    repeat' split
    all_goals dsimp only; omega
  have whole : (0xf0 + n / 262144 - 0xf0) * 262144 + (0x80 + n / 4096 % 64 - 0x80) * 4096 +
      (0x80 + n / 64 % 64 - 0x80) * 64 + (0x80 + n % 64 - 0x80) = n := by omega
  simp only [first, toNat_ofNat_of_lt (show 0xf0 + n / 262144 < 256 by omega), List.take_succ_cons,
    List.map_cons, toNat_tail, isTail_tail, second, whole, Bool.not_true, Bool.false_eq_true,
    if_false, if_true]
  rw [if_neg (by omega), if_neg (by simp only [Bool.or_eq_true, decide_eq_true_eq]; omega),
    if_neg (by omega), if_neg (by omega)]

/-- A character is found in front of its bytes, and they are all that is taken. -/
theorem first_encodeChar (c : Char) :
    ∃ a t, encodeChar c = a :: t ∧ ∀ u, first a (t ++ u) = (some c, t.length) := by
  have bounds : c.toNat < 0xd800 ∨ (0xdfff < c.toNat ∧ c.toNat < 0x110000) := c.valid
  have whole : Char.ofNat c.toNat = c := Char.ofNat_toNat c
  simp only [encodeChar]
  by_cases h1 : c.toNat < 0x80
  · rw [if_pos h1]
    refine ⟨_, [], rfl, fun u => ?_⟩
    rw [List.nil_append, first_one h1, whole]
    rfl
  rw [if_neg h1]
  by_cases h2 : c.toNat < 0x800
  · rw [if_pos h2]
    refine ⟨_, [_], rfl, fun u => ?_⟩
    rw [List.singleton_append, first_two (by omega) h2, whole]
    rfl
  rw [if_neg h2]
  by_cases h3 : c.toNat < 0x10000
  · rw [if_pos h3]
    refine ⟨_, [_, _], rfl, fun u => ?_⟩
    rw [List.cons_append, List.singleton_append, first_three (by omega) h3 (by omega), whole]
    rfl
  · rw [if_neg h3]
    refine ⟨_, [_, _, _], rfl, fun u => ?_⟩
    rw [List.cons_append, List.cons_append, List.singleton_append,
      first_four (by omega) (by omega), whole]
    rfl

theorem decode?_encodeChar_append (c : Char) (t : List UInt8) :
    decode? (encodeChar c ++ t) = (decode? t).map (c :: ·) := by
  obtain ⟨a, u, bytes, found⟩ := first_encodeChar c
  rw [bytes, List.cons_append, decode?, found]
  dsimp only
  rw [List.drop_left]

theorem decodeLossy_encodeChar_append (c : Char) (t : List UInt8) :
    decodeLossy (encodeChar c ++ t) = c :: decodeLossy t := by
  obtain ⟨a, u, bytes, found⟩ := first_encodeChar c
  rw [bytes, List.cons_append, decodeLossy, found, List.drop_left]
  rfl

/-! ## What begins some bytes -/

/-- The bytes of a character are those that the standard library gives it. -/
theorem encodeChar_eq (c : Char) : encodeChar c = String.utf8EncodeChar c := by
  have bounds : c.toNat < 0xd800 ∨ (0xdfff < c.toNat ∧ c.toNat < 0x110000) := c.valid
  have code : c.val.toNat = c.toNat := rfl
  have one : c.toNat ≤ 127 ↔ c.toNat < 0x80 := by omega
  have two : c.toNat ≤ 2047 ↔ c.toNat < 0x800 := by omega
  have three : c.toNat ≤ 65535 ↔ c.toNat < 0x10000 := by omega
  simp only [encodeChar, String.utf8EncodeChar, code, one, two, three, Nat.add_comm 0x80]
  by_cases h1 : c.toNat < 0x80
  · simp only [if_pos h1]
  by_cases h2 : c.toNat < 0x800
  · have lead : c.toNat / 64 % 32 + 192 = 0xc0 + c.toNat / 64 := by omega
    simp only [if_neg h1, if_pos h2, lead]
  by_cases h3 : c.toNat < 0x10000
  · have lead : c.toNat / 4096 % 16 + 224 = 0xe0 + c.toNat / 4096 := by omega
    simp only [if_neg h1, if_neg h2, if_pos h3, lead]
  · have lead : c.toNat / 262144 % 8 + 240 = 0xf0 + c.toNat / 262144 := by omega
    simp only [if_neg h1, if_neg h2, if_neg h3, lead]

theorem toNat_ofNat_of_valid (h : n < 0xd800 ∨ 0xdfff < n ∧ n < 0x110000) :
    (Char.ofNat n).toNat = n := by
  have valid : Char.ofNat n = Char.ofNatAux n h := dif_pos h
  rw [valid]
  rfl

theorem isTail_iff {b : Nat} : isTail b = true ↔ 0x80 ≤ b ∧ b ≤ 0xbf := by
  rw [isTail, Bool.and_eq_true, decide_eq_true_iff, decide_eq_true_iff]

/-- A second byte carries a character on. Behind four first bytes it is bounded further, against
forms that are too long, surrogates, and code points above the last one. -/
theorem isSecond_bounds {a b : Nat} (h : isSecond a b = true) :
    0x80 ≤ b ∧ b ≤ 0xbf ∧ (a = 0xe0 → 0xa0 ≤ b) ∧ (a = 0xed → b ≤ 0x9f) ∧
      (a = 0xf0 → 0x90 ≤ b) ∧ (a = 0xf4 → b ≤ 0x8f) := by
  rw [isSecond, Bool.and_eq_true, decide_eq_true_iff, decide_eq_true_iff, secondRange] at h
  repeat' split at h
  all_goals dsimp only at h; omega

section

variable {a b c d : UInt8}

theorem encodeChar_one (ha : a.toNat < 0x80) : encodeChar (Char.ofNat a.toNat) = [a] := by
  rw [encodeChar, toNat_ofNat_of_valid (by omega), if_pos ha, UInt8.ofNat_toNat]

theorem encodeChar_two (ha : 0xc2 ≤ a.toNat) (ha' : a.toNat < 0xe0)
    (hb : isTail b.toNat = true) :
    encodeChar (Char.ofNat ((a.toNat - 0xc0) * 64 + (b.toNat - 0x80))) = [a, b] := by
  have tail := isTail_iff.1 hb
  generalize hn : (a.toNat - 0xc0) * 64 + (b.toNat - 0x80) = n
  have first : 0xc0 + n / 64 = a.toNat := by omega
  have second : 0x80 + n % 64 = b.toNat := by omega
  rw [encodeChar, toNat_ofNat_of_valid (by omega), if_neg (by omega), if_pos (by omega), first,
    second, UInt8.ofNat_toNat, UInt8.ofNat_toNat]

theorem encodeChar_three (ha : 0xe0 ≤ a.toNat) (ha' : a.toNat < 0xf0)
    (hb : isSecond a.toNat b.toNat = true) (hc : isTail c.toNat = true) :
    encodeChar (Char.ofNat ((a.toNat - 0xe0) * 4096 + (b.toNat - 0x80) * 64 + (c.toNat - 0x80))) =
      [a, b, c] := by
  have range := isSecond_bounds hb
  have tail := isTail_iff.1 hc
  generalize hn : (a.toNat - 0xe0) * 4096 + (b.toNat - 0x80) * 64 + (c.toNat - 0x80) = n
  have first : 0xe0 + n / 4096 = a.toNat := by omega
  have second : 0x80 + n / 64 % 64 = b.toNat := by omega
  have third : 0x80 + n % 64 = c.toNat := by omega
  rw [encodeChar, toNat_ofNat_of_valid (by omega), if_neg (by omega), if_neg (by omega),
    if_pos (by omega), first, second, third, UInt8.ofNat_toNat, UInt8.ofNat_toNat,
    UInt8.ofNat_toNat]

theorem encodeChar_four (ha : 0xf0 ≤ a.toNat) (ha' : a.toNat ≤ 0xf4)
    (hb : isSecond a.toNat b.toNat = true) (hc : isTail c.toNat = true)
    (hd : isTail d.toNat = true) :
    encodeChar (Char.ofNat ((a.toNat - 0xf0) * 262144 + (b.toNat - 0x80) * 4096 +
      (c.toNat - 0x80) * 64 + (d.toNat - 0x80))) = [a, b, c, d] := by
  have range := isSecond_bounds hb
  have tail := isTail_iff.1 hc
  have tail' := isTail_iff.1 hd
  generalize hn : (a.toNat - 0xf0) * 262144 + (b.toNat - 0x80) * 4096 +
    (c.toNat - 0x80) * 64 + (d.toNat - 0x80) = n
  have first : 0xf0 + n / 262144 = a.toNat := by omega
  have second : 0x80 + n / 4096 % 64 = b.toNat := by omega
  have third : 0x80 + n / 64 % 64 = c.toNat := by omega
  have fourth : 0x80 + n % 64 = d.toNat := by omega
  rw [encodeChar, toNat_ofNat_of_valid (by omega), if_neg (by omega), if_neg (by omega),
    if_neg (by omega), first, second, third, fourth, UInt8.ofNat_toNat, UInt8.ofNat_toNat,
    UInt8.ofNat_toNat, UInt8.ofNat_toNat]

/-- A character that is found in front of some bytes has the bytes that are taken. -/
theorem encodeChar_of_first {t : List UInt8} {x : Char} {k : Nat}
    (h : first a t = (some x, k)) : a :: t = encodeChar x ++ t.drop k := by
  unfold first at h
  dsimp only at h
  split at h
  · rename_i h1
    obtain ⟨hx, rfl⟩ := Prod.mk.inj h
    rw [← Option.some.inj hx, encodeChar_one h1]
    rfl
  split at h
  · cases h
  rename_i h1 range
  rw [Bool.or_eq_true, decide_eq_true_iff, decide_eq_true_iff] at range
  rcases t with - | ⟨b, t⟩
  · cases h
  simp only [List.take_succ_cons, List.map_cons] at h
  split at h
  · rename_i h2
    split at h
    · rename_i hb
      obtain ⟨hx, rfl⟩ := Prod.mk.inj h
      rw [← Option.some.inj hx, encodeChar_two (by omega) h2 hb]
      rfl
    · cases h
  rename_i h2
  split at h
  · cases h
  rename_i hb
  rw [Bool.not_eq_true', Bool.not_eq_false] at hb
  rcases t with - | ⟨c, t⟩
  · cases h
  simp only [List.take_succ_cons, List.map_cons] at h
  split at h
  · cases h
  rename_i hc
  rw [Bool.not_eq_true', Bool.not_eq_false] at hc
  split at h
  · rename_i h3
    obtain ⟨hx, rfl⟩ := Prod.mk.inj h
    rw [← Option.some.inj hx, encodeChar_three (by omega) h3 hb hc]
    rfl
  rename_i h3
  rcases t with - | ⟨d, t⟩
  · cases h
  simp only [List.take_succ_cons, List.map_cons] at h
  split at h
  · rename_i hd
    obtain ⟨hx, rfl⟩ := Prod.mk.inj h
    rw [← Option.some.inj hx, encodeChar_four (by omega) (by omega) hb hc hd]
    rfl
  · cases h

end

/-! ## Texts -/

/-- **A text is read back from its bytes.** -/
theorem decode?_encode (cs : List Char) : decode? (encode cs) = some cs := by
  induction cs with
  | nil => rw [encode, List.flatMap_nil, decode?]
  | cons c cs ih => rw [encode, List.flatMap_cons, decode?_encodeChar_append, ← encode, ih]; rfl

theorem decodeLossy_encode (cs : List Char) : decodeLossy (encode cs) = cs := by
  induction cs with
  | nil => rw [encode, List.flatMap_nil, decodeLossy]
  | cons c cs ih => rw [encode, List.flatMap_cons, decodeLossy_encodeChar_append, ← encode, ih]

/-- **Nothing but texts is read** by the strict reader. -/
theorem decode?_eq_some_iff {bs : List UInt8} {cs : List Char} :
    decode? bs = some cs ↔ encode cs = bs := by
  constructor
  · intro h
    fun_induction decode? bs generalizing cs with
    | case1 =>
      obtain rfl := Option.some.inj h
      rfl
    | case2 a t x k found ih =>
      obtain ⟨ds, hd, rfl⟩ := Option.map_eq_some_iff.1 h
      rw [encodeChar_of_first found, ← ih hd]
      rfl
    | case3 => cases h
  · rintro rfl
    exact decode?_encode cs

/-! ## Characters of ASCII -/

theorem encode_append (cs ds : List Char) : encode (cs ++ ds) = encode cs ++ encode ds :=
  List.flatMap_append

theorem encode_cons_of_lt {c : Char} (h : c.toNat < 0x80) (cs : List Char) :
    encode (c :: cs) = UInt8.ofNat c.toNat :: encode cs := by
  rw [encode, List.flatMap_cons, encodeChar, if_pos h]
  rfl

/-- The bytes of a character beyond ASCII are beyond ASCII as well. -/
theorem le_of_mem_encodeChar {c : Char} {b : UInt8} (h : 0x80 ≤ c.toNat) (hb : b ∈ encodeChar c) :
    0x80 ≤ b.toNat := by
  have bounds : c.toNat < 0xd800 ∨ (0xdfff < c.toNat ∧ c.toNat < 0x110000) := c.valid
  have large {n : Nat} (hn : 0x80 ≤ n ∧ n < 256) : 0x80 ≤ (UInt8.ofNat n).toNat := by
    rw [toNat_ofNat_of_lt hn.2]
    exact hn.1
  simp only [encodeChar, if_neg (Nat.not_lt.2 h)] at hb
  split at hb
  · simp only [List.mem_cons, List.not_mem_nil, or_false] at hb
    rcases hb with rfl | rfl <;> exact large (by omega)
  split at hb
  · simp only [List.mem_cons, List.not_mem_nil, or_false] at hb
    rcases hb with rfl | rfl | rfl <;> exact large (by omega)
  · simp only [List.mem_cons, List.not_mem_nil, or_false] at hb
    rcases hb with rfl | rfl | rfl | rfl <;> exact large (by omega)

/-- A byte of ASCII stands among the bytes of a text for its character and for no other. -/
theorem mem_encode_iff {c : Char} (h : c.toNat < 0x80) {cs : List Char} :
    UInt8.ofNat c.toNat ∈ encode cs ↔ c ∈ cs := by
  have code {d : Char} (hd : d.toNat < 0x80) : (UInt8.ofNat d.toNat).toNat = d.toNat :=
    toNat_ofNat_of_lt (by omega)
  rw [encode, List.mem_flatMap]
  constructor
  · rintro ⟨d, hd, hb⟩
    by_cases small : d.toNat < 0x80
    · rw [encodeChar, if_pos small, List.mem_singleton] at hb
      have same : c.toNat = d.toNat := by rw [← code h, hb, code small]
      rwa [Char.toNat_inj.1 same]
    · have large := le_of_mem_encodeChar (Nat.not_lt.1 small) hb
      rw [code h] at large
      exact absurd h (Nat.not_lt.2 large)
  · intro hc
    refine ⟨c, hc, ?_⟩
    rw [encodeChar, if_pos h]
    exact List.mem_singleton_self _

/-! ## Validity -/

/-- The bytes are valid by the measure of the standard library. -/
def IsValid (bs : List UInt8) : Prop := bs.toByteArray.IsValidUTF8

theorem encode_eq (cs : List Char) : encode cs = cs.flatMap String.utf8EncodeChar := by
  rw [encode, funext encodeChar_eq]

theorem isValid_encode (cs : List Char) : IsValid (encode cs) :=
  ⟨cs, by rw [encode_eq]; rfl⟩

/-- **The strict reader takes the valid bytes** and no others. -/
theorem isValid_iff_exists {bs : List UInt8} : IsValid bs ↔ ∃ cs, decode? bs = some cs := by
  simp only [decode?_eq_some_iff]
  constructor
  · rintro ⟨cs, h⟩
    refine ⟨cs, ?_⟩
    rw [encode_eq]
    exact (List.toByteArray_inj.1 h).symm
  · rintro ⟨cs, rfl⟩
    exact isValid_encode cs

end Gatekeeper.Utf8
