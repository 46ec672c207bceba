import Gatekeeper.Proofs.Url.Ipv6Literal

/-!
# The normal form of an IPv6 address is read back

An address that is read has eight pieces of sixteen bits (`isAddress_of_parse?`), and the normal
form of such an address is read as that address (`parse?_text`).

Both are facts about literals. What a literal spells is an address (`Spells.isAddress`), and the
normal form is a literal for its address (`spells_text`): in it `::` stands for a run of zero
pieces, and the other pieces are all there.
-/

namespace Gatekeeper.Url.Ipv6

/-- Eight pieces of sixteen bits. -/
structure IsAddress (ps : List Nat) : Prop where
  length : ps.length = 8
  piece : ∀ x ∈ ps, x < 65536

variable {t : List Char} {xs ps : List Nat} {x y : Nat}

/-! ## What is spelled is an address -/

theorem SpellsPiece.lt (h : SpellsPiece t x) : x < 65536 := by
  have bound := Numeral.ofHexDigits_lt_pow t
  rw [h.value] at bound
  exact Nat.lt_of_lt_of_le bound (Nat.pow_le_pow_right (by decide) h.short)

theorem SpellsTail.lt (h : SpellsTail t x y) : ∀ z ∈ [x, y], z < 65536 := by
  obtain ⟨first, second, third, fourth⟩ := h
  have := first.small
  have := second.small
  have := third.small
  have := fourth.small
  simp only [List.forall_mem_cons]
  exact ⟨by omega, by omega, List.forall_mem_nil _⟩

theorem SpellsPieces.lt (h : SpellsPieces t xs) : ∀ z ∈ xs, z < 65536 := by
  induction h with
  | one piece => exact List.forall_mem_cons.2 ⟨piece.lt, List.forall_mem_nil _⟩
  | cons piece others ih => exact List.forall_mem_cons.2 ⟨piece.lt, ih⟩

theorem SpellsRow.lt (h : SpellsRow t xs) : ∀ z ∈ xs, z < 65536 := by
  cases h with
  | pieces h => exact h.lt
  | tail h => exact h.lt
  | both h tail =>
    intro z hz
    exact (List.mem_append.1 hz).elim (h.lt z) (tail.lt z)

theorem SpellsSide.lt {spells : List Char → List Nat → Prop} (h : SpellsSide spells t xs)
    (row : spells t xs → ∀ z ∈ xs, z < 65536) : ∀ z ∈ xs, z < 65536 := by
  rcases h with ⟨-, rfl⟩ | h
  · exact List.forall_mem_nil _
  · exact row h

theorem Spells.isAddress (h : Spells t ps) : IsAddress ps := by
  cases h with
  | full row eight => exact ⟨eight, row.lt⟩
  | gap before after short =>
    refine ⟨?_, fun z hz => ?_⟩
    · simp only [List.length_append, List.length_replicate]
      omega
    · rcases List.mem_append.1 hz with hz | hz
      · rcases List.mem_append.1 hz with hz | hz
        · exact before.lt SpellsPieces.lt z hz
        · rw [List.eq_of_mem_replicate hz]
          decide
      · exact after.lt SpellsRow.lt z hz

theorem isAddress_of_parse? (h : parse? t = some ps) : IsAddress ps :=
  (parse?_eq_some_iff.1 h).isAddress

/-! ## What is written -/

theorem spellsPiece_hexDigits (hx : x < 65536) : SpellsPiece (Numeral.hexDigits x) x where
  ne_nil := Numeral.hexDigits_ne_nil x
  short := Numeral.length_hexDigits_le (by decide) hx
  digits _ hc := Numeral.isHexDigit_of_mem_hexDigits hc
  value := Numeral.ofHexDigits_hexDigits x

theorem joined_cons_cons (x y : Nat) (ys : List Nat) :
    joined (x :: y :: ys) = Numeral.hexDigits x ++ ':' :: joined (y :: ys) := by
  simp [joined, List.intercalate]

theorem joined_singleton (x : Nat) : joined [x] = Numeral.hexDigits x := by
  simp [joined, List.intercalate]

theorem spellsPieces_joined (hne : xs ≠ []) (hx : ∀ z ∈ xs, z < 65536) :
    SpellsPieces (joined xs) xs := by
  induction xs with
  | nil => exact absurd rfl hne
  | cons x xs ih =>
    obtain ⟨first, others⟩ := List.forall_mem_cons.1 hx
    rcases xs with - | ⟨y, ys⟩
    · rw [joined_singleton]
      exact .one (spellsPiece_hexDigits first)
    · rw [joined_cons_cons]
      exact .cons (spellsPiece_hexDigits first) (ih (List.cons_ne_nil _ _) others)

/-- Pieces that may be missing, on either side of the double colon. -/
theorem spellsSide_joined {spells : List Char → List Nat → Prop}
    (row : SpellsPieces (joined xs) xs → spells (joined xs) xs) (hx : ∀ z ∈ xs, z < 65536) :
    SpellsSide spells (joined xs) xs := by
  by_cases hne : xs = []
  · subst hne
    exact Or.inl ⟨rfl, rfl⟩
  · exact Or.inr (row (spellsPieces_joined hne hx))

/-! ## Runs of zeros -/

/-- At the place that is found there are that many zeros. -/
theorem longestRun_le (ps : List Nat) :
    (longestRun ps).2 ≤ zeroRun (ps.drop (longestRun ps).1) := by
  have kept : ∀ (ks : List Nat) (best : Nat × Nat), best.2 ≤ zeroRun (ps.drop best.1) →
      (ks.foldl (fun best k =>
        if best.2 < zeroRun (ps.drop k) then (k, zeroRun (ps.drop k)) else best) best).2 ≤
      zeroRun (ps.drop (ks.foldl (fun best k =>
        if best.2 < zeroRun (ps.drop k) then (k, zeroRun (ps.drop k)) else best) best).1) := by
    intro ks
    induction ks with
    | nil => exact fun _ h => h
    | cons k ks ih =>
      intro best h
      rw [List.foldl_cons]
      refine ih _ ?_
      split
      · exact Nat.le_refl _
      · exact h
  exact kept _ (0, 0) (Nat.zero_le _)

theorem eq_of_le_zeroRun {ps : List Nat} {n : Nat} (h : n ≤ zeroRun ps) :
    ps = List.replicate n 0 ++ ps.drop n := by
  induction ps generalizing n with
  | nil =>
    obtain rfl : n = 0 := Nat.le_zero.1 h
    rfl
  | cons x ps ih =>
    rcases n with - | n
    · rfl
    · by_cases hx : x = 0
      · rw [zeroRun, hx, List.takeWhile_cons_of_pos rfl, List.length_cons] at h
        rw [hx, List.replicate_succ, List.cons_append, List.drop_succ_cons,
          ← ih (Nat.le_of_succ_le_succ h)]
      · rw [zeroRun, List.takeWhile_cons_of_neg (by simpa using hx)] at h
        cases h

/-- The pieces before a run of zeros, the run, and the pieces behind it. -/
theorem split_longestRun (ps : List Nat) :
    ps = ps.take (longestRun ps).1 ++ List.replicate (longestRun ps).2 0 ++
      ps.drop ((longestRun ps).1 + (longestRun ps).2) := by
  rw [List.append_assoc, ← List.drop_drop, ← eq_of_le_zeroRun (longestRun_le ps),
    List.take_append_drop]

/-! ## Addresses -/

/-- The normal form is a literal for its address. -/
theorem spells_text (h : IsAddress ps) : Spells (text ps) ps := by
  have whole := split_longestRun ps
  have size := congrArg List.length whole
  rw [h.length, List.length_append, List.length_append, List.length_replicate] at size
  simp only [text]
  split
  · have hne : ps ≠ [] := by
      rintro rfl
      cases h.length
    exact .full (.pieces (spellsPieces_joined hne h.piece)) h.length
  · have before : ∀ z ∈ ps.take (longestRun ps).1, z < 65536 :=
      fun z hz => h.piece z (List.mem_of_mem_take hz)
    have after : ∀ z ∈ ps.drop ((longestRun ps).1 + (longestRun ps).2), z < 65536 :=
      fun z hz => h.piece z (List.mem_of_mem_drop hz)
    have literal := Spells.gap (spellsSide_joined id before)
      (spellsSide_joined SpellsRow.pieces after) (by omega)
    have zeros : 8 - ((ps.take (longestRun ps).1).length +
        (ps.drop ((longestRun ps).1 + (longestRun ps).2)).length) = (longestRun ps).2 := by omega
    rw [zeros, ← whole] at literal
    rwa [List.append_assoc]

/-- **The normal form of an address is read as that address.** -/
theorem parse?_text (h : IsAddress ps) : parse? (text ps) = some ps :=
  parse?_eq_some_iff.2 (spells_text h)

end Gatekeeper.Url.Ipv6
