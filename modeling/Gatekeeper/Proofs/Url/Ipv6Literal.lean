import Gatekeeper.Proofs.Numeral.Hex
import Gatekeeper.Url.Ipv6
import Mathlib.Data.List.TakeWhile

/-!
# IPv6 literals

The texts that spell an address (`Spells`), said without the reader: pieces of one to four digits
between colons, of which the last two may be four decimal numbers between points, and `::` once in
place of one or more zero pieces. The reader accepts exactly these texts, and gives the pieces that
they spell (`parse?_eq_some_iff`).

The reader keeps a `Partial`. Pieces with a colon behind them are taken one by one
(`SpellsPieces.read_append`), up to a row at the end (`SpellsRow.read`) or to a double colon.
Conversely, what is read behind the double colon is a row or nothing (`side_of_read`), and what is
read of a text in which the double colon may still come is told by `Read`.
-/

namespace Gatekeeper.Url.Ipv6

/-! ## Spellings -/

/-- One to four hexadecimal digits, of either case, spell a piece. -/
structure SpellsPiece (t : List Char) (x : Nat) : Prop where
  ne_nil : t ≠ []
  short : t.length ≤ 4
  digits : ∀ c ∈ t, Numeral.isHexDigit c = true
  value : Numeral.ofHexDigits t = x

/-- A decimal number below 256 without a leading zero. -/
structure SpellsOctet (t : List Char) (n : Nat) : Prop where
  ne_nil : t ≠ []
  digits : ∀ c ∈ t, c.isDigit = true
  value : Nat.ofDigitChars 10 t 0 = n
  small : n ≤ 255
  lean : t.length = 1 ∨ t.head? ≠ some '0'

/-- An IPv4 tail: four decimal numbers between points spell two pieces. -/
inductive SpellsTail : List Char → Nat → Nat → Prop
  | octets {k l m n : List Char} {a b c d : Nat} (first : SpellsOctet k a)
    (second : SpellsOctet l b) (third : SpellsOctet m c) (fourth : SpellsOctet n d) :
    SpellsTail (['.'].intercalate [k, l, m, n]) (a * 256 + b) (c * 256 + d)

/-- Pieces with colons between them. -/
inductive SpellsPieces : List Char → List Nat → Prop
  | one {t : List Char} {x : Nat} (piece : SpellsPiece t x) : SpellsPieces t [x]
  | cons {t u : List Char} {x : Nat} {xs : List Nat} (piece : SpellsPiece t x)
    (others : SpellsPieces u xs) : SpellsPieces (t ++ ':' :: u) (x :: xs)

/-- Pieces up to the end of a literal: the last two may be an IPv4 tail. -/
inductive SpellsRow : List Char → List Nat → Prop
  | pieces {t : List Char} {xs : List Nat} (h : SpellsPieces t xs) : SpellsRow t xs
  | tail {t : List Char} {x y : Nat} (h : SpellsTail t x y) : SpellsRow t [x, y]
  | both {t u : List Char} {xs : List Nat} {x y : Nat} (h : SpellsPieces t xs)
    (tail : SpellsTail u x y) : SpellsRow (t ++ ':' :: u) (xs ++ [x, y])

/-- What stands on a side of the double colon, where there may be nothing. -/
def SpellsSide (spells : List Char → List Nat → Prop) (t : List Char) (xs : List Nat) : Prop :=
  (t = [] ∧ xs = []) ∨ spells t xs

/-- The spellings of an address. -/
inductive Spells : List Char → List Nat → Prop
  | full {t : List Char} {ps : List Nat} (row : SpellsRow t ps) (eight : ps.length = 8) :
    Spells t ps
  | gap {t u : List Char} {xs ys : List Nat} (before : SpellsSide SpellsPieces t xs)
    (after : SpellsSide SpellsRow u ys) (short : xs.length + ys.length < 8) :
    Spells (t ++ ':' :: ':' :: u) (xs ++ List.replicate (8 - (xs.length + ys.length)) 0 ++ ys)

/-! ## Partial addresses -/

namespace Partial

@[simp] theorem size_mk_some (ps : List Nat) (k : Nat) :
    (⟨ps, some k⟩ : Partial).size = ps.length + 1 := rfl

@[simp] theorem size_mk_none (ps : List Nat) :
    (⟨ps, none⟩ : Partial).size = ps.length := rfl

/-- Some more pieces. -/
def append (p : Partial) (xs : List Nat) : Partial := { p with pieces := p.pieces ++ xs }

theorem push_eq (p : Partial) (x : Nat) : p.push x = p.append [x] := rfl

theorem append_nil (p : Partial) : p.append [] = p := by
  rw [append, List.append_nil]

theorem append_append (p : Partial) (xs ys : List Nat) :
    (p.append xs).append ys = p.append (xs ++ ys) := by
  rw [append, append, append, List.append_assoc]

@[simp] theorem gap_append (p : Partial) (xs : List Nat) : (p.append xs).gap = p.gap := rfl

@[simp] theorem size_append (p : Partial) (xs : List Nat) :
    (p.append xs).size = p.size + xs.length := by
  simp only [size, append, List.length_append]
  exact Nat.add_right_comm ..

end Partial

variable {p q : Partial} {cs t u : List Char} {xs ys ps : List Nat} {x y : Nat}

/-! ## Digits -/

/-- The digits of a piece are cut off where no digit follows. -/
theorem SpellsPiece.pieceDigits_append (h : SpellsPiece t x)
    (hu : ∀ c ∈ u.head?, Numeral.isHexDigit c = false) : pieceDigits (t ++ u) = t := by
  have stop : (u.take (4 - t.length)).takeWhile Numeral.isHexDigit = [] := by
    rcases u with - | ⟨c, v⟩
    · simp
    · rcases 4 - t.length with - | k
      · rfl
      · rw [List.take_succ_cons, List.takeWhile_cons_of_neg (by simp [hu c rfl])]
  rw [pieceDigits, List.take_append, List.take_of_length_le h.short,
    List.takeWhile_append_of_pos h.digits, stop, List.append_nil]

theorem SpellsPiece.exists_cons (h : SpellsPiece t x) : ∃ c v, t = c :: v ∧ c ≠ ':' := by
  obtain ⟨c, v, rfl⟩ := List.exists_cons_of_ne_nil h.ne_nil
  refine ⟨c, v, rfl, ?_⟩
  rintro rfl
  exact absurd (h.digits _ List.mem_cons_self) (by decide)

/-- The digits that are cut off spell a piece, where they are not missing. -/
theorem spellsPiece_pieceDigits (h : cs.drop (pieceDigits cs).length = u) (hne : u ≠ cs) :
    SpellsPiece (pieceDigits cs) (Numeral.ofHexDigits (pieceDigits cs)) ∧
      cs = pieceDigits cs ++ u := by
  refine ⟨⟨?_, ?_, fun _ hc => List.mem_takeWhile_imp hc, rfl⟩, ?_⟩
  · intro none
    rw [none] at h
    exact hne h.symm
  · exact Nat.le_trans (List.takeWhile_prefix _).length_le (List.length_take_le _ _)
  · have start : pieceDigits cs <+: cs := (List.takeWhile_prefix _).trans (List.take_prefix _ _)
    rw [← h, List.prefix_iff_eq_append.1 start]

/-! ## Tails -/

theorem octet?_eq_some_iff {n : Nat} : octet? t = some n ↔ SpellsOctet t n := by
  unfold octet? Numeral.read?
  constructor
  · intro h
    split at h
    · rename_i m hm
      split at hm
      · rename_i hd
        split at h
        · rename_i hn
          obtain rfl := Option.some.inj h
          obtain rfl := Option.some.inj hm
          simp only [Bool.and_eq_true, Bool.or_eq_true, decide_eq_true_eq, List.all_eq_true,
            Bool.not_eq_true', List.isEmpty_eq_false_iff] at hd hn
          exact ⟨hd.1, hd.2, rfl, hn.1, hn.2⟩
        · cases h
      · cases hm
    · cases h
  · rintro ⟨hne, digits, rfl, small, lean⟩
    have hd : (!t.isEmpty && t.all Char.isDigit) = true := by simpa using ⟨hne, digits⟩
    simp only [hd, if_true]
    rw [if_pos (by simpa using ⟨small, lean⟩)]

theorem SpellsOctet.notMem {n : Nat} (h : SpellsOctet t n) : '.' ∉ t := fun hc =>
  absurd (h.digits _ hc) (by decide)

theorem tail?_eq_some_iff : tail? cs = some (x, y) ↔ SpellsTail cs x y := by
  unfold tail?
  constructor
  · intro h
    split at h
    · rename_i a b c d hm
      obtain ⟨rfl, rfl⟩ := Prod.mk.inj (Option.some.inj h)
      have parts : ['.'].intercalate (cs.splitOn '.') = cs := List.intercalate_splitOn '.'
      -- The reader of a list succeeds on lists of the same length only.
      rcases hs : cs.splitOn '.' with - | ⟨k, - | ⟨l, - | ⟨m, - | ⟨n, - | ⟨o, os⟩⟩⟩⟩⟩ <;>
        rw [hs] at hm parts <;>
        simp only [List.mapM_cons, List.mapM_nil, Option.pure_def, Option.bind_eq_bind,
          Option.bind_eq_some_iff, Option.some.injEq, List.cons.injEq, List.cons_ne_nil,
          List.nil_eq, and_false, exists_false, exists_eq_right_right] at hm
      obtain ⟨ha, hb, hc, hd, -⟩ := hm
      rw [← parts]
      exact .octets (octet?_eq_some_iff.1 ha) (octet?_eq_some_iff.1 hb) (octet?_eq_some_iff.1 hc)
        (octet?_eq_some_iff.1 hd)
    · cases h
  · rintro ⟨first, second, third, fourth⟩
    rw [List.splitOn_intercalate '.' _ (List.cons_ne_nil _ _)]
    · simp only [List.mapM_cons, List.mapM_nil, octet?_eq_some_iff.2 first,
        octet?_eq_some_iff.2 second, octet?_eq_some_iff.2 third, octet?_eq_some_iff.2 fourth,
        Option.pure_def, Option.bind_eq_bind, Option.bind_some]
    · simp only [List.forall_mem_cons]
      exact ⟨first.notMem, second.notMem, third.notMem, fourth.notMem, List.forall_mem_nil _⟩

/-- Four digits without a leading zero make a number that is too large. -/
theorem SpellsOctet.length_le {n : Nat} (h : SpellsOctet t n) : t.length ≤ 3 := by
  obtain ⟨c, v, rfl⟩ := List.exists_cons_of_ne_nil h.ne_nil
  rcases h.lean with single | nonzero
  · omega
  · have digit := Char.isDigit_iff_toNat.1 (h.digits c List.mem_cons_self)
    have positive : 1 ≤ c.toNat - '0'.toNat := by
      have other : c.toNat ≠ '0'.toNat := fun h0 =>
        nonzero (congrArg some (Char.toNat_inj.1 h0))
      omega
    by_contra long
    have value := h.value
    rw [Nat.ofDigitChars_cons, Nat.ofDigitChars_eq_ofDigitChars_zero, Nat.mul_zero,
      Nat.zero_add] at value
    have large : 10 ^ 3 ≤ 10 ^ v.length :=
      Nat.pow_le_pow_right (by decide) (by rw [List.length_cons] at long; omega)
    have grow := Nat.mul_le_mul large positive
    have small := h.small
    omega

theorem SpellsOctet.spellsPiece {n : Nat} (h : SpellsOctet t n) :
    SpellsPiece t (Numeral.ofHexDigits t) where
  ne_nil := h.ne_nil
  short := Nat.le_succ_of_le h.length_le
  digits c hc := Numeral.isHexDigit_iff.2 ⟨_, if_pos (h.digits c hc)⟩
  value := rfl

/-- A tail begins with the digits of its first number, which a point follows. -/
theorem SpellsTail.exists_pieceDigits (h : SpellsTail cs x y) :
    ∃ c t u, cs = c :: t ∧ c ≠ ':' ∧ pieceDigits (c :: t) ≠ [] ∧
      (c :: t).drop (pieceDigits (c :: t)).length = '.' :: u := by
  obtain @⟨k, l, m, n, a, b, c, d, first, second, third, fourth⟩ := h
  have text : ['.'].intercalate [k, l, m, n] = k ++ '.' :: ['.'].intercalate [l, m, n] := by
    simp [List.intercalate]
  have cut : pieceDigits (k ++ '.' :: ['.'].intercalate [l, m, n]) = k := by
    refine first.spellsPiece.pieceDigits_append fun c hc => ?_
    obtain rfl := Option.some.inj hc
    rfl
  obtain ⟨c, v, rfl, colon⟩ := first.spellsPiece.exists_cons
  rw [text]
  refine ⟨c, v ++ '.' :: ['.'].intercalate [l, m, n], ['.'].intercalate [l, m, n], rfl, colon, ?_⟩
  rw [← List.cons_append, cut]
  exact ⟨List.cons_ne_nil _ _, List.drop_left⟩

/-! ## Characters -/

/-- The characters of literals. -/
def InLiteral (c : Char) : Prop := c = ':' ∨ c = '.' ∨ Numeral.isHexDigit c = true

theorem SpellsPiece.inLiteral (h : SpellsPiece t x) : ∀ c ∈ t, InLiteral c :=
  fun c hc => Or.inr (Or.inr (h.digits c hc))

theorem SpellsPieces.inLiteral (h : SpellsPieces t xs) : ∀ c ∈ t, InLiteral c := by
  induction h with
  | one piece => exact piece.inLiteral
  | cons piece others ih =>
    exact List.forall_mem_append.2
      ⟨piece.inLiteral, List.forall_mem_cons.2 ⟨Or.inl rfl, ih⟩⟩

theorem SpellsTail.inLiteral (h : SpellsTail t x y) : ∀ c ∈ t, InLiteral c := by
  obtain ⟨first, second, third, fourth⟩ := h
  have point : InLiteral '.' := Or.inr (Or.inl rfl)
  simp only [List.intercalate, List.intersperse, List.flatten_cons, List.flatten_nil,
    List.append_nil, List.forall_mem_append, List.forall_mem_singleton]
  exact ⟨first.spellsPiece.inLiteral, point, second.spellsPiece.inLiteral, point,
    third.spellsPiece.inLiteral, point, fourth.spellsPiece.inLiteral⟩

theorem SpellsRow.inLiteral (h : SpellsRow t xs) : ∀ c ∈ t, InLiteral c := by
  cases h with
  | pieces h => exact h.inLiteral
  | tail h => exact h.inLiteral
  | both h tail =>
    exact List.forall_mem_append.2
      ⟨h.inLiteral, List.forall_mem_cons.2 ⟨Or.inl rfl, tail.inLiteral⟩⟩

theorem SpellsSide.inLiteral {spells : List Char → List Nat → Prop} (h : SpellsSide spells t xs)
    (row : spells t xs → ∀ c ∈ t, InLiteral c) : ∀ c ∈ t, InLiteral c := by
  rcases h with ⟨rfl, -⟩ | h
  · exact List.forall_mem_nil _
  · exact row h

theorem Spells.inLiteral (h : Spells t ps) : ∀ c ∈ t, InLiteral c := by
  cases h with
  | full row eight => exact row.inLiteral
  | gap before after short =>
    refine List.forall_mem_append.2 ⟨before.inLiteral SpellsPieces.inLiteral, ?_⟩
    exact List.forall_mem_cons.2 ⟨Or.inl rfl,
      List.forall_mem_cons.2 ⟨Or.inl rfl, after.inLiteral SpellsRow.inLiteral⟩⟩

/-! ## What is spelled is read -/

/-- A piece at the end is read. -/
theorem SpellsPiece.read (h : SpellsPiece t x) (hs : p.size < 8) :
    pieces? p t = some (p.push x) := by
  have cut : pieceDigits t = t := by
    have cut := h.pieceDigits_append (u := []) (by simp)
    rwa [List.append_nil] at cut
  obtain ⟨c, v, rfl, colon⟩ := h.exists_cons
  have rest : (c :: v).drop (pieceDigits (c :: v)).length = [] := by rw [cut, List.drop_length]
  rw [pieces?, if_neg (by omega), if_neg colon]
  dsimp only
  split
  case h_1 => rw [cut, h.value]
  case h_2 h | h_3 h => exact absurd (rest.symm.trans h) (by simp)
  case h_4 h _ _ => exact absurd rest h

/-- A piece and the colon behind it are read. -/
theorem SpellsPiece.read_append (h : SpellsPiece t x) (hs : p.size < 8) (hu : u ≠ []) :
    pieces? p (t ++ ':' :: u) = pieces? (p.push x) u := by
  have cut : pieceDigits (t ++ ':' :: u) = t := by
    refine h.pieceDigits_append fun c hc => ?_
    obtain rfl := Option.some.inj hc
    rfl
  obtain ⟨c, v, rfl, colon⟩ := h.exists_cons
  have rest : (c :: v ++ ':' :: u).drop (pieceDigits (c :: v ++ ':' :: u)).length = ':' :: u := by
    rw [cut, List.drop_left]
  rw [List.cons_append] at cut rest ⊢
  rw [pieces?, if_neg (by omega), if_neg colon]
  dsimp only
  split
  case h_1 h => exact absurd (rest.symm.trans h) (by simp)
  case h_2 h => exact absurd (rest.symm.trans h) (by simp)
  case h_3 w hw =>
    obtain ⟨-, rfl⟩ := List.cons.inj (rest.symm.trans hw)
    rw [if_neg (by simp [hu]), cut, h.value]
  case h_4 _ _ h => exact absurd rest (h u)

/-- A tail is read where there is room for its two pieces. -/
theorem SpellsTail.read (h : SpellsTail t x y) (hs : p.size ≤ 6) :
    pieces? p t = some (p.append [x, y]) := by
  obtain ⟨c, v, u, rfl, colon, some, rest⟩ := h.exists_pieceDigits
  rw [pieces?, if_neg (by omega), if_neg colon]
  dsimp only
  split
  case h_1 h => exact absurd (rest.symm.trans h) (by simp)
  case h_2 w hw =>
    rw [if_neg (by simp [some]; omega), tail?_eq_some_iff.2 h]
    simp [Partial.push, Partial.append]
  case h_3 h => exact absurd (rest.symm.trans h) (by simp)
  case h_4 h _ => exact absurd rest (h u)

/-- Pieces and the colon behind them are read. -/
theorem SpellsPieces.read_append (h : SpellsPieces t xs) (hs : p.size + xs.length ≤ 8)
    (hu : u ≠ []) : pieces? p (t ++ ':' :: u) = pieces? (p.append xs) u := by
  induction h generalizing p with
  | one piece =>
    rw [List.length_singleton] at hs
    rw [piece.read_append (by omega) hu, Partial.push_eq]
  | cons piece others ih =>
    rw [List.length_cons] at hs
    rw [List.append_assoc, List.cons_append, piece.read_append (by omega) (by simp),
      ih (by rw [Partial.push_eq, Partial.size_append, List.length_singleton]; omega),
      Partial.push_eq, Partial.append_append]
    rfl

theorem SpellsPieces.ne_nil (h : SpellsPieces t xs) : t ≠ [] := by
  cases h with
  | one piece => exact piece.ne_nil
  | cons piece others => simp

/-- Pieces at the end are read. -/
theorem SpellsPieces.read (h : SpellsPieces t xs) (hs : p.size + xs.length ≤ 8) :
    pieces? p t = some (p.append xs) := by
  induction h generalizing p with
  | one piece =>
    rw [List.length_singleton] at hs
    rw [piece.read (by omega), Partial.push_eq]
  | cons piece others ih =>
    rw [List.length_cons] at hs
    rw [piece.read_append (by omega) others.ne_nil,
      ih (by rw [Partial.push_eq, Partial.size_append, List.length_singleton]; omega),
      Partial.push_eq, Partial.append_append]
    rfl

/-- A row is read where there is room for its pieces. -/
theorem SpellsRow.read (h : SpellsRow t xs) (hs : p.size + xs.length ≤ 8) :
    pieces? p t = some (p.append xs) := by
  cases h with
  | pieces h => exact h.read hs
  | tail h => exact h.read (by simp at hs; omega)
  | both h tail =>
    rw [List.length_append] at hs
    obtain ⟨c, v, -, hv, -⟩ := tail.exists_pieceDigits
    rw [h.read_append (by omega) (by simp [hv]), tail.read, Partial.append_append]
    rw [Partial.size_append]
    simp at hs
    omega

/-- A row or nothing, behind the double colon. -/
theorem read_side (h : SpellsSide SpellsRow t xs) (hs : p.size + xs.length ≤ 8) :
    pieces? p t = some (p.append xs) := by
  rcases h with ⟨rfl, rfl⟩ | row
  · rw [pieces?, Partial.append_nil]
  · exact row.read hs

theorem SpellsPieces.length_le (h : SpellsPieces t xs) : xs.length ≤ t.length := by
  induction h with
  | one piece => exact List.length_pos_iff.2 piece.ne_nil
  | cons piece others ih =>
    rw [List.length_cons, List.length_append, List.length_cons]
    omega

/-- No piece takes less than a character. -/
theorem SpellsRow.length_le (h : SpellsRow t xs) : xs.length ≤ t.length := by
  have tail : ∀ {u : List Char} {x y : Nat}, SpellsTail u x y → 2 ≤ u.length := by
    rintro _ _ _ ⟨first, second, third, fourth⟩
    simp [List.intercalate]
    omega
  cases h with
  | pieces h => exact h.length_le
  | tail h => exact tail h
  | both h h' =>
    have := h.length_le
    have := tail h'
    simp only [List.length_append, List.length_cons, List.length_nil]
    omega

theorem SpellsPieces.exists_cons (h : SpellsPieces t xs) : ∃ c v, t = c :: v ∧ c ≠ ':' := by
  cases h with
  | one piece => exact piece.exists_cons
  | cons piece others =>
    obtain ⟨c, v, rfl, colon⟩ := piece.exists_cons
    exact ⟨c, _, rfl, colon⟩

theorem SpellsRow.exists_cons (h : SpellsRow t xs) : ∃ c v, t = c :: v ∧ c ≠ ':' := by
  cases h with
  | pieces h => exact h.exists_cons
  | tail h =>
    obtain ⟨c, v, -, hv, colon, -⟩ := h.exists_pieceDigits
    exact ⟨c, v, hv, colon⟩
  | both h tail =>
    obtain ⟨c, v, rfl, colon⟩ := h.exists_cons
    exact ⟨c, _, rfl, colon⟩

theorem parse?_of_ne {c d : Char} (hc : c ≠ ':') :
    parse? (c :: d :: t) = (pieces? {} (c :: d :: t)).bind Partial.complete? := by
  rw [parse?]
  · intro t h
    exact hc (List.cons.inj h).1
  · intro t h
    exact hc (List.cons.inj h).1
  · exact fun h => List.cons_ne_nil _ _ h
  · intro e h
    exact List.cons_ne_nil _ _ (List.cons.inj h).2

/-- Pieces around a double colon are completed with zeros. -/
theorem complete?_gap (xs ys : List Nat) :
    Partial.complete? ⟨xs ++ ys, some xs.length⟩ =
      some (xs ++ List.replicate (8 - (xs.length + ys.length)) 0 ++ ys) := by
  simp only [Partial.complete?, List.take_left, List.drop_left, List.length_append]

theorem Spells.parse?_eq (h : Spells cs ps) : parse? cs = some ps := by
  cases h with
  | full row eight =>
    have read := row.read (p := {}) (Nat.le_of_eq (by simpa using eight))
    obtain ⟨c, v, rfl, colon⟩ := row.exists_cons
    rcases v with - | ⟨d, v⟩
    · exact absurd (eight ▸ row.length_le) (by simp)
    · rw [parse?_of_ne colon, read]
      exact if_pos eight
  | @gap t u xs ys before after short =>
    have rest : (pieces? ⟨xs, some xs.length⟩ u).bind Partial.complete? =
        some (xs ++ List.replicate (8 - (xs.length + ys.length)) 0 ++ ys) := by
      rw [read_side after (by rw [Partial.size_mk_some]; omega), Option.bind_some, Partial.append,
        complete?_gap]
    rcases before with ⟨rfl, rfl⟩ | pieces
    · exact rest
    · have read := pieces.read_append (p := {}) (u := ':' :: u)
        (by simp only [Partial.size_mk_none, List.length_nil]; omega) (by simp)
      obtain ⟨c, v, rfl, colon⟩ := pieces.exists_cons
      obtain ⟨d, w, hw⟩ := List.exists_cons_of_ne_nil (l := v ++ ':' :: ':' :: u) (by simp)
      rw [List.cons_append, hw] at read ⊢
      rw [parse?_of_ne colon, read, pieces?, if_neg (by simp; omega), if_pos rfl]
      simpa [Partial.append] using rest

/-! ## What is read is spelled -/

/-- A row behind a piece and its colon. -/
theorem SpellsRow.cons (piece : SpellsPiece t x) (h : SpellsRow u xs) :
    SpellsRow (t ++ ':' :: u) (x :: xs) := by
  cases h with
  | pieces h => exact .pieces (.cons piece h)
  | tail h => exact .both (.one piece) h
  | @both v w ys a b h tail =>
    have row := SpellsRow.both (.cons piece h) tail
    rwa [List.append_assoc, List.cons_append] at row

/-- Behind the double colon a row is read, or nothing. -/
theorem side_of_read {k : Nat} (hg : p.gap = some k) (hs : p.size ≤ 8)
    (h : pieces? p cs = some q) :
    ∃ ys, SpellsSide SpellsRow cs ys ∧ q = p.append ys ∧ p.size + ys.length ≤ 8 := by
  fun_induction pieces? p cs with
  | case1 p =>
    obtain rfl := Option.some.inj h
    exact ⟨[], Or.inl ⟨rfl, rfl⟩, p.append_nil.symm, hs⟩
  | case4 p t hs' hn => simp [hg] at hn
  | case5 p c t hs' colon ds hd =>
    obtain ⟨piece, whole⟩ := spellsPiece_pieceDigits hd (List.cons_ne_nil c t).symm
    obtain rfl := Option.some.inj h
    refine ⟨[Numeral.ofHexDigits ds], Or.inr (.pieces (.one ?_)), rfl, ?_⟩
    · rw [whole, List.append_nil]
      exact piece
    · rw [List.length_singleton]
      omega
  | case7 p c t hs' colon ds tail hd hi =>
    obtain ⟨⟨a, b⟩, ht, rfl⟩ := Option.map_eq_some_iff.1 h
    simp only [Bool.or_eq_true, decide_eq_true_eq, not_or] at hi
    refine ⟨[a, b], Or.inr (.tail (tail?_eq_some_iff.1 ht)), ?_, ?_⟩
    · simp [Partial.push, Partial.append]
    · simp only [List.length_cons, List.length_nil]
      omega
  | case9 p c t hs' colon ds u hd hu ih =>
    have other : ':' :: u ≠ c :: t := fun he => colon (List.cons.inj he).1.symm
    obtain ⟨piece, whole⟩ := spellsPiece_pieceDigits hd other
    obtain ⟨ys, side, rfl, short⟩ := ih hg (by rw [Partial.push_eq]; simp; omega) h
    rcases side with ⟨rfl, -⟩ | row
    · simp at hu
    · refine ⟨Numeral.ofHexDigits ds :: ys, Or.inr ?_, ?_, ?_⟩
      · rw [whole]
        exact row.cons piece
      · rw [Partial.push_eq, Partial.append_append]
        rfl
      · rw [Partial.push_eq, Partial.size_append, List.length_singleton] at short
        rw [List.length_cons]
        omega
  | _ => cases h

/-- What a text that is read spells, where no double colon stands before it: a row, or a double
colon with something or nothing around it. The text may begin within the double colon, when a piece
with its colon was read before. -/
inductive Read (p : Partial) : List Char → Partial → Prop
  | row {t : List Char} {xs : List Nat} (h : SpellsRow t xs) (short : p.size + xs.length ≤ 8) :
    Read p t (p.append xs)
  | within {u : List Char} {ys : List Nat} (h : SpellsSide SpellsRow u ys)
    (short : p.size + ys.length < 8) :
    Read p (':' :: u) ⟨p.pieces ++ ys, some p.pieces.length⟩
  | gap {t u : List Char} {xs ys : List Nat} (before : SpellsPieces t xs)
    (after : SpellsSide SpellsRow u ys) (short : p.size + xs.length + ys.length < 8) :
    Read p (t ++ ':' :: ':' :: u) ⟨p.pieces ++ xs ++ ys, some (p.pieces ++ xs).length⟩

/-- One more piece in front of what is read. -/
theorem Read.cons (piece : SpellsPiece t x) (h : Read (p.push x) u q) :
    Read p (t ++ ':' :: u) q := by
  rw [Partial.push_eq] at h
  cases h with
  | row h short =>
    rw [Partial.append_append]
    refine .row (h.cons piece) ?_
    simp only [Partial.size_append, List.length_append, List.length_cons, List.length_nil]
      at short ⊢
    omega
  | within h short =>
    refine .gap (.one piece) h ?_
    simpa using short
  | @gap v w xs ys before after short =>
    have longer := Read.gap (p := p) (.cons piece before) after
      (by simp only [Partial.size_append, List.length_cons, List.length_nil] at short ⊢; omega)
    simpa [Partial.append] using longer

/-- All that is read of a text is told by `Read`. -/
theorem read_of_pieces? (hg : p.gap = none) (hs : p.size ≤ 8) (hne : cs ≠ [])
    (h : pieces? p cs = some q) : Read p cs q := by
  fun_induction pieces? p cs with
  | case1 p => exact absurd rfl hne
  | case4 p t hs' hn ih =>
    -- What is read from here on is the side behind the double colon.
    have room : p.size = p.pieces.length := by simp [Partial.size, hg]
    obtain ⟨ys, side, rfl, short⟩ := side_of_read (k := p.pieces.length) rfl
      (by rw [Partial.size_mk_some]; omega) h
    refine .within side ?_
    simp only [Partial.size_mk_some] at short
    omega
  | case5 p c t hs' colon ds hd =>
    obtain ⟨piece, whole⟩ := spellsPiece_pieceDigits hd (List.cons_ne_nil c t).symm
    obtain rfl := Option.some.inj h
    rw [whole, List.append_nil, Partial.push_eq]
    refine .row (.pieces (.one piece)) ?_
    rw [List.length_singleton]
    omega
  | case7 p c t hs' colon ds tail hd hi =>
    obtain ⟨⟨a, b⟩, ht, rfl⟩ := Option.map_eq_some_iff.1 h
    simp only [Bool.or_eq_true, decide_eq_true_eq, not_or] at hi
    have row := Read.row (p := p) (.tail (tail?_eq_some_iff.1 ht)) (by simp; omega)
    simpa [Partial.push, Partial.append] using row
  | case9 p c t hs' colon ds u hd hu ih =>
    have other : ':' :: u ≠ c :: t := fun he => colon (List.cons.inj he).1.symm
    obtain ⟨piece, whole⟩ := spellsPiece_pieceDigits hd other
    rw [whole]
    exact (ih hg (by rw [Partial.push_eq]; simp; omega) (by simpa using hu) h).cons piece
  | _ => cases h

theorem spells_of_parse? (h : parse? cs = some ps) : Spells cs ps := by
  unfold parse? at h
  split at h
  · rename_i t
    obtain ⟨q, hq, hc⟩ := Option.bind_eq_some_iff.1 h
    obtain ⟨ys, side, rfl, short⟩ := side_of_read (k := 0) rfl (by decide) hq
    have done := complete?_gap [] ys
    obtain rfl := Option.some.inj (hc.symm.trans done)
    refine .gap (Or.inl ⟨rfl, rfl⟩) side ?_
    simp at short ⊢
    omega
  · cases h
  · cases h
  · cases h
  · rename_i _ noColon nonempty _
    obtain ⟨q, hq, hc⟩ := Option.bind_eq_some_iff.1 h
    cases read_of_pieces? rfl (by decide) nonempty hq with
    | @row t xs row short =>
      change (if xs.length = 8 then some xs else none) = some ps at hc
      by_cases eight : xs.length = 8
      · rw [if_pos eight] at hc
        obtain rfl := Option.some.inj hc
        exact .full row eight
      · rw [if_neg eight] at hc
        cases hc
    | within _ _ => exact absurd rfl (noColon _)
    | @gap t u xs ys before after short =>
      rw [List.nil_append, complete?_gap] at hc
      obtain rfl := Option.some.inj hc
      refine .gap (Or.inr before) after ?_
      simp at short
      omega

/-- **The reader accepts exactly the literals**, and gives the pieces that they spell. -/
theorem parse?_eq_some_iff : parse? cs = some ps ↔ Spells cs ps :=
  ⟨spells_of_parse?, Spells.parse?_eq⟩

end Gatekeeper.Url.Ipv6
