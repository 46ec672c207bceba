import Gatekeeper.Settings.Validity

/-!
# Valid settings have an address

`validate` and `address` take the server URL apart in the same way (`Ldap.url`), so their answers go
together: what each needs of the URL is said by `validate_eq_ok_iff` and `address_eq_ok_iff`, and
valid settings name an address (`exists_address_of_validate`).

The converse needs more than the URL. What has no address is refused for that reason
(`validate_of_address_eq_error`), and of what has one `validate` looks at the rest, STARTTLS before
the timeout (`validate_of_address_eq_ok`). `AnswersAgree` puts both halves together.
-/

namespace Gatekeeper.Settings.Ldap

variable {s : Ldap} {f : Failure} {a : String}

/-- The URL of settings is the text's own, of one of the two schemes. -/
theorem url_eq_ok_iff {u : Url} :
    s.url = .ok u ↔ s.serverUrl.isEmpty = false ∧ Url.parse s.serverUrl.toList = .ok u ∧
      (u.scheme = "ldap".toList ∨ u.scheme = "ldaps".toList) := by
  unfold url
  by_cases he : s.serverUrl.isEmpty = true
  · simp [he]
  · rw [if_neg he]
    rcases hp : Url.parse s.serverUrl.toList with fault | v
    · simp
    · simp only [Bool.or_eq_true, decide_eq_true_eq, Except.ok.injEq, Bool.not_eq_true _ ▸ he,
        true_and]
      split
      · rename_i hs
        constructor
        · rintro ⟨rfl⟩
          exact ⟨rfl, hs⟩
        · rintro ⟨rfl, -⟩
          rfl
      · rename_i hs
        refine iff_of_false (by simp) ?_
        rintro ⟨rfl, h⟩
        exact hs h

theorem address_eq_ok_iff {a : String} :
    s.address = .ok a ↔ ∃ u host, s.url = .ok u ∧ u.host = some host ∧
      a = s!"{String.ofList host.text}:{portOf u}" := by
  unfold address
  rcases s.url with f | u
  · simp [bind, Except.bind]
  · rcases hh : u.host with - | host
    · simp [bind, Except.bind, hh]
    · simp [bind, Except.bind, hh, eq_comm]

theorem validate_eq_ok_iff :
    s.validate = .ok () ↔ ∃ u host, s.url = .ok u ∧ u.host = some host ∧
      (isTls u && s.startTls) = false ∧ s.timeoutSeconds ≠ 0 := by
  unfold validate
  -- One case for each check, in the order in which they are made.
  rcases s.url with f | u
  · simp [bind, Except.bind]
  · rcases hh : u.host with - | host
    · simp [bind, Except.bind, hh]
    · simp only [bind, Except.bind, hh, Option.isNone_some, Bool.false_eq_true, if_false]
      rcases ht : (isTls u && s.startTls) with - | -
      · by_cases h0 : s.timeoutSeconds = 0
        · simp [h0]
        · simp only [Bool.false_eq_true, if_false, h0, true_iff]
          exact ⟨u, host, rfl, hh, ht, h0⟩
      · refine iff_of_false (by simp) ?_
        rintro ⟨_, _, ⟨rfl⟩, -, h, -⟩
        exact Bool.noConfusion (ht.symm.trans h)

/-- **Valid settings name an address**, of a URL that does not ask for two ways of encryption. -/
theorem exists_address_of_validate (h : s.validate = .ok ()) :
    ∃ u a, s.url = .ok u ∧ s.address = .ok a ∧ (isTls u && s.startTls) = false := by
  obtain ⟨u, host, hu, hh, ht, -⟩ := validate_eq_ok_iff.1 h
  exact ⟨u, _, hu, address_eq_ok_iff.2 ⟨u, host, hu, hh, rfl⟩, ht⟩

/-! ## What is refused -/

/-- The failure of STARTTLS over a connection that is encrypted already. -/
def startTlsOverTls : Failure := .invalidConfig "STARTTLS cannot be combined with an ldaps:// URL"

/-- The failure of a timeout that leaves no time. -/
def zeroTimeout : Failure := .invalidConfig "timeout_seconds must be greater than zero"

/-- Settings without an address are refused for the same reason. -/
theorem validate_of_address_eq_error (h : s.address = .error f) : s.validate = .error f := by
  unfold address at h
  unfold validate
  cases hu : s.url with
  | error g =>
    rw [hu] at h
    obtain rfl : g = f := Except.error.inj h
    rfl
  | ok u =>
    rw [hu] at h
    cases hh : u.host with
    | none => simpa [bind, Except.bind, hh] using h
    | some host => simp [bind, Except.bind, hh] at h

/-- Settings with an address are refused for STARTTLS first, and then for the timeout. -/
theorem validate_of_address_eq_ok (h : s.address = .ok a) :
    ∃ u, s.url = .ok u ∧ s.validate =
      if isTls u && s.startTls then .error startTlsOverTls
      else if s.timeoutSeconds = 0 then .error zeroTimeout
      else .ok () := by
  obtain ⟨u, host, hu, hh, -⟩ := address_eq_ok_iff.1 h
  refine ⟨u, hu, ?_⟩
  rw [validate, hu]
  simp only [bind, Except.bind, hh, Option.isNone_some, Bool.false_eq_true, if_false,
    startTlsOverTls, zeroTimeout]

theorem isTls_and_iff (u : Url) (b : Bool) :
    (isTls u && b) = true ↔ u.scheme = "ldaps".toList ∧ b = true := by
  rw [Bool.and_eq_true, isTls, decide_eq_true_eq]

/-- How the answers of `validate` and `address` go together. -/
structure AnswersAgree (s : Ldap) : Prop where
  /-- Settings without an address are refused for the same reason, in the same words. -/
  refused : ∀ f, s.address = .error f → s.validate = .error f
  /-- Settings with an address have a URL, and are valid unless it is of the encrypted scheme and
  STARTTLS is asked for, or the timeout is zero. -/
  valid_iff : ∀ a, s.address = .ok a → ∃ u, Url.parse s.serverUrl.toList = .ok u ∧
    (s.validate = .ok () ↔
      ¬ (u.scheme = "ldaps".toList ∧ s.startTls = true) ∧ s.timeoutSeconds ≠ 0)
  /-- STARTTLS is told of first. -/
  startTls : ∀ a u, s.address = .ok a → Url.parse s.serverUrl.toList = .ok u →
    u.scheme = "ldaps".toList → s.startTls = true → s.validate = .error startTlsOverTls
  /-- The timeout is told of where that is all. -/
  timeout : ∀ a u, s.address = .ok a → Url.parse s.serverUrl.toList = .ok u →
    ¬ (u.scheme = "ldaps".toList ∧ s.startTls = true) → s.timeoutSeconds = 0 →
    s.validate = .error zeroTimeout

/-- **The answers agree**, whatever the settings are. -/
theorem answersAgree (s : Ldap) : AnswersAgree s := by
  -- The URL that the settings are read with is the one that their text is read as.
  have checks : ∀ {a}, s.address = .ok a → ∃ u, Url.parse s.serverUrl.toList = .ok u ∧
      s.validate = if isTls u && s.startTls then .error startTlsOverTls
        else if s.timeoutSeconds = 0 then .error zeroTimeout else .ok () := by
    intro a ha
    obtain ⟨u, hu, hv⟩ := validate_of_address_eq_ok ha
    exact ⟨u, (url_eq_ok_iff.1 hu).2.1, hv⟩
  refine ⟨fun f => validate_of_address_eq_error, fun a ha => ?_, fun a u ha hu hs ht => ?_,
    fun a u ha hu hs ht => ?_⟩
  · obtain ⟨u, hu, hv⟩ := checks ha
    refine ⟨u, hu, ?_⟩
    rw [hv, ← isTls_and_iff]
    by_cases both : (isTls u && s.startTls) = true
    · simp [both]
    · by_cases zero : s.timeoutSeconds = 0
      · simp [both, zero]
      · simp [both, zero]
  · obtain ⟨v, hv, h⟩ := checks ha
    obtain rfl : u = v := Except.ok.inj (hu.symm.trans hv)
    rw [h, if_pos ((isTls_and_iff u _).2 ⟨hs, ht⟩)]
  · obtain ⟨v, hv, h⟩ := checks ha
    obtain rfl : u = v := Except.ok.inj (hu.symm.trans hv)
    rw [h, if_neg (mt (isTls_and_iff u _).1 hs), if_pos ht]

end Gatekeeper.Settings.Ldap

namespace Gatekeeper.Settings

variable {s : Settings} {f : Failure}

/-! ## Both sections -/

theorem validate_of_ldap_eq_error (h : s.ldap.validate = .error f) : s.validate = .error f := by
  rw [validate, h]
  rfl

theorem validate_of_ldap_eq_ok (h : s.ldap.validate = .ok ()) :
    s.validate = s.logging.validate := by
  rw [validate, h]
  rfl

/-- Settings are valid where both their sections are. -/
theorem validate_eq_ok_iff :
    s.validate = .ok () ↔ s.ldap.validate = .ok () ∧ s.logging.validate = .ok () := by
  cases h : s.ldap.validate with
  | error f => simp [validate_of_ldap_eq_error h]
  | ok u => simp [validate_of_ldap_eq_ok h]

end Gatekeeper.Settings
