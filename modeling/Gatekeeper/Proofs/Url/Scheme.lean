import Gatekeeper.Url.Basic

/-!
# The scheme of a URL

The scheme that a URL has after it was read is the one that `splitScheme?` finds in its cleaned text
(`splitScheme?_of_parse`). What cleaning leaves out of a text stands behind any part at its front
that has no blank or control character (`cleaned_append`), so a text that begins with the name of a
scheme and a colon is of that scheme, folded to lower case (`scheme_of_parse_append`).

The converse fails: folding and cleaning make many texts of one scheme.
-/

namespace Gatekeeper.Url

/-! ## Cleaning -/

theorem isIgnored_of_isEdge_eq_false {c : Char} (h : isEdge c = false) : isIgnored c = false := by
  rw [isIgnored, Bool.or_eq_false_iff, Bool.or_eq_false_iff]
  refine ⟨⟨?_, ?_⟩, ?_⟩ <;>
  · rw [decide_eq_false_iff_not]
    rintro rfl
    simp [isEdge] at h

/-- Cleaning keeps what a text begins with, up to the first blank or control character. -/
theorem cleaned_append {p : List Char} (hne : p ≠ []) (hp : ∀ c ∈ p, isEdge c = false)
    (t : List Char) : ∃ t', cleaned (p ++ t) = p ++ t' := by
  obtain ⟨c, p', rfl⟩ := List.exists_cons_of_ne_nil hne
  have front : ((c :: p') ++ t).dropWhile isEdge = (c :: p') ++ t := by
    rw [List.cons_append, List.dropWhile_cons_of_neg (by simp [hp c List.mem_cons_self])]
  -- The end is cut off from the back, and the cut stops at the front part at the latest.
  obtain ⟨u, back⟩ : ∃ u, (t.reverse ++ (c :: p').reverse).dropWhile isEdge =
      u ++ (c :: p').reverse := by
    have kept : (c :: p').reverse.dropWhile isEdge = (c :: p').reverse := by
      obtain ⟨d, q, hq⟩ := List.exists_cons_of_ne_nil (List.reverse_ne_nil_iff.2 hne)
      have hd : isEdge d = false := hp d (List.mem_reverse.1 (hq ▸ List.mem_cons_self))
      rw [hq, List.dropWhile_cons_of_neg (by simp [hd])]
    rw [List.dropWhile_append]
    split
    · exact ⟨[], kept⟩
    · exact ⟨_, rfl⟩
  have solid : (c :: p').filter (fun c => !isIgnored c) = c :: p' :=
    List.filter_eq_self.2 fun d hd => by simp [isIgnored_of_isEdge_eq_false (hp d hd)]
  refine ⟨u.reverse.filter fun c => !isIgnored c, ?_⟩
  rw [cleaned, front, List.reverse_append, back, List.reverse_append, List.reverse_reverse,
    List.filter_append, solid]

/-! ## Splitting the scheme off -/

/-- The text may be the name of a scheme. -/
structure IsSchemeName (name : List Char) : Prop where
  head : ∃ c t, name = c :: t ∧ c.isAlpha = true
  chars : ∀ c ∈ name, isSchemeChar c = true

theorem splitScheme?_append {name : List Char} (h : IsSchemeName name) (t : List Char) :
    splitScheme? (name ++ ':' :: t) = some (name.map Char.toLower, t) := by
  obtain ⟨c, n, rfl, hc⟩ := h.head
  have stop : isSchemeChar ':' = false := by decide
  rw [splitScheme?, List.takeWhile_append_of_pos h.chars, List.dropWhile_append_of_pos h.chars,
    List.takeWhile_cons_of_neg (by simp [stop]), List.dropWhile_cons_of_neg (by simp [stop]),
    List.append_nil]
  simp only [hc, if_true]

theorem isEdge_eq_false_of_isSchemeChar {c : Char} (h : isSchemeChar c = true) :
    isEdge c = false := by
  delta isSchemeChar Char.isAlphanum Char.isAlpha Char.isUpper Char.isLower Char.isDigit at h
  simp only [Bool.or_eq_true, decide_eq_true_eq, Bool.and_eq_true, UInt32.le_iff_toNat_le,
    ge_iff_le] at h
  change (((((65 ≤ c.toNat ∧ c.toNat ≤ 90) ∨ (97 ≤ c.toNat ∧ c.toNat ≤ 122)) ∨
    (48 ≤ c.toNat ∧ c.toNat ≤ 57)) ∨ c = '+') ∨ c = '-') ∨ c = '.' at h
  rw [isEdge, decide_eq_false_iff_not]
  rcases h with ((h | rfl) | rfl) | rfl
  · omega
  all_goals decide

/-! ## The scheme that is read -/

theorem scheme_of_authorityOnward {scheme cs : List Char} {k : Kind} {u : Url}
    (h : authorityOnward scheme k cs = .ok u) : u.scheme = scheme := by
  simp only [authorityOnward] at h
  split at h
  · cases h
  · rcases hp : hostAndPort k (splitUserinfo (cs.takeWhile fun c => !endsAuthority k c)).2 with
      fault | ⟨host, port, after⟩
    · rw [hp] at h
      cases h
    · rw [hp] at h
      simp only [bind, Except.bind] at h
      split at h
      · cases h
      · cases h
        rfl

theorem scheme_of_fileOnward {scheme cs : List Char} {u : Url}
    (h : fileOnward scheme cs = .ok u) : u.scheme = scheme := by
  unfold fileOnward at h
  split at h
  · split at h
    · simp only at h
      split at h
      · cases h
        rfl
      · split at h
        · cases h
          rfl
        · rcases hd : domainHost _ with fault | host
          · rw [hd] at h
            cases h
          · rw [hd] at h
            cases h
            rfl
    · cases h
      rfl
  · cases h
    rfl

/-- The scheme of a URL is the one that its cleaned text begins with. -/
theorem splitScheme?_of_parse {cs : List Char} {u : Url} (h : parse cs = .ok u) :
    ∃ t, splitScheme? (cleaned cs) = some (u.scheme, t) := by
  unfold parse at h
  split at h
  · cases h
  · rename_i scheme t hs
    refine ⟨t, ?_⟩
    rw [hs]
    split at h
    · rw [scheme_of_authorityOnward h]
    · rw [scheme_of_fileOnward h]
    · rw [scheme_of_authorityOnward h]
    · cases h
      rfl

/-- **A text that begins with the name of a scheme is of that scheme**, in lower case. -/
theorem scheme_of_parse_append {name t : List Char} (hn : IsSchemeName name) {u : Url}
    (h : parse (name ++ ':' :: t) = .ok u) : u.scheme = name.map Char.toLower := by
  have solid : ∀ c ∈ name ++ [':'], isEdge c = false := by
    intro c hc
    rcases List.mem_append.1 hc with hc | hc
    · exact isEdge_eq_false_of_isSchemeChar (hn.chars c hc)
    · obtain rfl := List.mem_singleton.1 hc
      decide
  obtain ⟨t', ht'⟩ := cleaned_append (by simp) solid t
  obtain ⟨rest, hs⟩ := splitScheme?_of_parse h
  rw [List.append_assoc, List.singleton_append] at ht'
  rw [ht', List.append_assoc, List.singleton_append, splitScheme?_append hn] at hs
  exact (congrArg Prod.fst (Option.some.inj hs)).symm

end Gatekeeper.Url
