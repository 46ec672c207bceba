import Gatekeeper.Proofs.Url.Ipv6
import Gatekeeper.Url.Basic

/-!
# The hosts of uninterpreted schemes

A host of a scheme such as `ldap` is a name that stands for itself or an address in brackets
(`Host.IsOpaque`). That is all that `opaqueHost` gives (`isOpaque_of_opaqueHost`): escaping a name
leaves only characters that need no escape.
-/

namespace Gatekeeper.Url

/-! ## Names -/

/-- A name that stands for itself: no character of it has to be escaped or is refused. -/
structure IsHostName (t : List Char) : Prop where
  ne_nil : t ≠ []
  plain : ∀ c ∈ t, isPlain c = true
  allowed : ∀ c ∈ t, isForbidden c = false

theorem isPlain_of_isHexDigit {c : Char} (h : Numeral.isHexDigit c = true) : isPlain c = true := by
  have := Numeral.toNat_of_isHexDigit h
  simp only [isPlain, Bool.and_eq_true, decide_eq_true_eq]
  omega

theorem isForbidden_of_isHexDigit {c : Char} (h : Numeral.isHexDigit c = true) :
    isForbidden c = false := by
  have none : "\x00\t\n\r #/:<>?@[\\]^|".toList.all (!Numeral.isHexDigit ·) = true := by decide
  cases hc : isForbidden c with
  | false => rfl
  | true =>
    have no := List.all_eq_true.1 none c (List.contains_iff_mem.1 hc)
    rw [h] at no
    cases no

/-- What stands in an escape. -/
theorem eq_or_isHexDigit_of_mem_escape {b : UInt8} {c : Char} (h : c ∈ Percent.escape b) :
    c = '%' ∨ Numeral.isHexDigit c = true :=
  (List.mem_cons.1 h).imp_right Numeral.isHexDigit_of_mem_hexDigitsUpper

/-- Escaping leaves characters that need no escape. -/
theorem mem_encode {cs : List Char} {c : Char} (h : c ∈ Percent.encode isPlain cs) :
    (c ∈ cs ∧ isPlain c = true) ∨ c = '%' ∨ Numeral.isHexDigit c = true := by
  obtain ⟨d, hd, hc⟩ := List.mem_flatMap.1 h
  split at hc
  · rename_i plain
    obtain rfl := List.mem_singleton.1 hc
    exact Or.inl ⟨hd, plain⟩
  · obtain ⟨b, -, hb⟩ := List.mem_flatMap.1 hc
    exact Or.inr (eq_or_isHexDigit_of_mem_escape hb)

theorem encode_ne_nil {cs : List Char} (h : cs ≠ []) : Percent.encode isPlain cs ≠ [] := by
  obtain ⟨c, t, rfl⟩ := List.exists_cons_of_ne_nil h
  rw [Percent.encode, List.flatMap_cons]
  refine List.append_ne_nil_of_left_ne_nil ?_ _
  split
  · exact List.cons_ne_nil _ _
  · unfold Utf8.encodeChar
    dsimp only
    repeat' split
    all_goals exact List.cons_ne_nil _ _

theorem isHostName_encode {cs : List Char} (hne : cs ≠ []) (h : cs.any isForbidden = false) :
    IsHostName (Percent.encode isPlain cs) where
  ne_nil := encode_ne_nil hne
  plain c hc := by
    rcases mem_encode hc with ⟨-, plain⟩ | rfl | digit
    · exact plain
    · rfl
    · exact isPlain_of_isHexDigit digit
  allowed c hc := by
    rcases mem_encode hc with ⟨hc, -⟩ | rfl | digit
    · simpa using List.any_eq_false.1 h c hc
    · decide
    · exact isForbidden_of_isHexDigit digit

/-! ## Hosts -/

/-- A host of an uninterpreted scheme. -/
def Host.IsOpaque : Host → Prop
  | .name t => IsHostName t
  | .ipv4 _ => False
  | .ipv6 ps => Ipv6.IsAddress ps

theorem isOpaque_of_opaqueHost {cs : List Char} (hne : cs ≠ []) {host : Host}
    (h : opaqueHost cs = .ok host) : host.IsOpaque := by
  unfold opaqueHost at h
  split at h
  · unfold bracketed at h
    split at h
    · split at h
      · rename_i ps hp
        obtain rfl := Except.ok.inj h
        exact Ipv6.isAddress_of_parse? hp
      · cases h
    · cases h
  · split at h
    · cases h
    · rename_i allowed
      obtain rfl := Except.ok.inj h
      exact isHostName_encode hne (Bool.not_eq_true _ ▸ allowed)

end Gatekeeper.Url
