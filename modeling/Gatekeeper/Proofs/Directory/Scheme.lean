import Gatekeeper.Proofs.Directory.Exchange
import Gatekeeper.Proofs.Settings.Address
import Gatekeeper.Proofs.Url.Scheme

/-!
# The scheme that is dialed

The settings take their server URL apart, and the scheme of the URL decides there on the port and on
STARTTLS. The dialer looks at the text alone: it encrypts what begins with `ldaps://` to the letter
(`SpelledTls`). Text spelled so is of the scheme `ldaps` (`scheme_of_spelledTls`), but text of that
scheme may be spelled in capitals, or with blanks that the URL leaves out. So the dialer keeps the
scheme of the URL just where the scheme `ldaps` is spelled out (`keepsScheme_iff`), and any other
URL of that scheme is dialed in the clear (`session_eq_plain_iff_of_validate`).
-/

namespace Gatekeeper.Directory.Dialer

open Settings (Ldap)

variable {s : Ldap} {u : Url} {address : String}

/-- The server URL begins with the encrypted scheme, to the letter. -/
def SpelledTls (s : Ldap) : Prop := "ldaps://".toList <+: s.serverUrl.toList

theorem useTls_ofSettings_iff : (ofSettings s).useTls = true ↔ SpelledTls s :=
  List.isPrefixOf_iff_prefix

/-- Text that is spelled with the encrypted scheme is of that scheme. -/
theorem scheme_of_spelledTls (hu : s.url = .ok u) (h : SpelledTls s) :
    u.scheme = "ldaps".toList := by
  obtain ⟨t, ht⟩ := h
  have parsed : Url.parse ("ldaps".toList ++ ':' :: ("//".toList ++ t)) = .ok u := by
    have split : "ldaps".toList ++ ':' :: ("//".toList ++ t) = "ldaps://".toList ++ t := rfl
    rw [split, ht]
    exact (Ldap.url_eq_ok_iff.1 hu).2.1
  have name : Url.IsSchemeName "ldaps".toList :=
    ⟨⟨'l', _, rfl, by decide⟩, List.all_eq_true.1 (by decide)⟩
  exact Url.scheme_of_parse_append name parsed

/-! ## The URL -/

theorem url_of_useTls {d : Dialer} (h : d.useTls = true) (address : String) :
    d.url address = "ldaps://" ++ address := by
  rw [url, scheme, if_pos h]
  rfl

theorem url_of_not_useTls {d : Dialer} (h : d.useTls = false) (address : String) :
    d.url address = "ldap://" ++ address := by
  rw [url, scheme, if_neg (by simp [h])]
  rfl

theorem tls_ne_plain (address address' : String) :
    "ldaps://" ++ address ≠ "ldap://" ++ address' := by
  intro h
  have h := congrArg String.toList h
  rw [String.toList_append, String.toList_append] at h
  simp at h

theorem url_eq_tls_iff : (ofSettings s).url address = "ldaps://" ++ address ↔ SpelledTls s := by
  rw [← useTls_ofSettings_iff]
  rcases h : (ofSettings s).useTls with - | -
  · rw [url_of_not_useTls h]
    exact iff_of_false (tls_ne_plain _ _).symm (by simp)
  · rw [url_of_useTls h]
    exact iff_of_true rfl rfl

theorem url_eq_plain_iff : (ofSettings s).url address = "ldap://" ++ address ↔ ¬ SpelledTls s := by
  rw [← useTls_ofSettings_iff]
  rcases h : (ofSettings s).useTls with - | -
  · rw [url_of_not_useTls h]
    exact iff_of_true rfl (by simp)
  · rw [url_of_useTls h]
    exact iff_of_false (tls_ne_plain _ _) (by simp)

/-- The dialer goes to an address with the scheme of the URL. -/
def KeepsScheme (s : Ldap) (u : Url) (address : String) : Prop :=
  ((ofSettings s).url address = "ldaps://" ++ address ↔ u.scheme = "ldaps".toList) ∧
    ((ofSettings s).url address = "ldap://" ++ address ↔ u.scheme = "ldap".toList)

/-- **The scheme is kept** just where the encrypted scheme is spelled out. -/
theorem keepsScheme_iff (hu : s.url = .ok u) :
    KeepsScheme s u address ↔ (u.scheme = "ldaps".toList → SpelledTls s) := by
  rw [KeepsScheme, url_eq_tls_iff, url_eq_plain_iff]
  constructor
  · rintro ⟨h, -⟩
    exact h.2
  · intro spelled
    have one : u.scheme = "ldaps".toList ↔ SpelledTls s := ⟨spelled, scheme_of_spelledTls hu⟩
    refine ⟨one.symm, ?_⟩
    rw [← one]
    rcases (Ldap.url_eq_ok_iff.1 hu).2.2 with h | h <;> rw [h] <;> decide

/-! ## The session -/

/-- Valid settings with a URL of the encrypted scheme are dialed in the clear just where the scheme
is not spelled out. -/
theorem session_eq_plain_iff_of_validate (hu : s.url = .ok u) (ht : u.scheme = "ldaps".toList)
    (hv : s.validate = .ok ()) : (ofSettings s).session = .plain ↔ ¬ SpelledTls s := by
  obtain ⟨v, -, hu', -, hs⟩ := Ldap.exists_address_of_validate hv
  obtain rfl : u = v := Except.ok.inj (hu.symm.trans hu')
  have plain : s.startTls = false := by simpa [Ldap.isTls, ht] using hs
  rw [session_eq_plain_iff, ← useTls_ofSettings_iff, Bool.not_eq_true]
  exact and_iff_left plain

/-- Valid settings that ask for an upgrade get one: their URL is of the plain scheme, so it does not
spell the other one. -/
theorem session_eq_upgraded_of_validate (hv : s.validate = .ok ()) (ht : s.startTls = true) :
    (ofSettings s).session = .upgraded := by
  obtain ⟨u, -, hu, -, hs⟩ := Ldap.exists_address_of_validate hv
  have plain : u.scheme ≠ "ldaps".toList := by simpa [Ldap.isTls, ht] using hs
  refine session_eq_upgraded_iff.2 ⟨?_, ht⟩
  rw [← Bool.not_eq_true, useTls_ofSettings_iff]
  exact fun spelled => plain (scheme_of_spelledTls hu spelled)

end Gatekeeper.Directory.Dialer
