import Gatekeeper.Proofs.CommandLine.BindRun

/-!
# Settings that can be used for a bind

A bind asks for validity and address one after the other, and each takes the server URL apart for
itself. Their answers agree (`Ldap.AnswersAgree`), so a bind that has come past `validate` has its
address, and its dialer knows it (`exists_configured_of_validate`): the failure that `performBind`
would tell without a word on what was attempted is never met (`attempted_of_performBind`).
-/

namespace Gatekeeper.CommandLine

open Directory (Dialer Network)
open Settings (Ldap)

variable {s : Settings}

/-- Valid directory settings have an address, and their dialer knows it. -/
theorem exists_configured_of_validate (h : s.ldap.validate = .ok ()) :
    ∃ a, s.ldap.address = .ok a ∧ (Dialer.ofSettings s.ldap).configured = some a := by
  obtain ⟨-, a, -, ha, -⟩ := Ldap.exists_address_of_validate h
  refine ⟨a, ha, ?_⟩
  simp only [Dialer.ofSettings, ha, Except.toOption]

/-- A bind that fails tells what it attempted: no address is missing once the settings are valid. -/
theorem attempted_of_performBind (s : Settings) (password bindDn : Option String) (net : Network)
    (f : Failure) : (performBind s password bindDn net).result ≠ .error ⟨none, f⟩ := by
  intro h
  unfold performBind at h
  cases hv : s.ldap.validate with
  | error g =>
    simp [hv, Session.failed] at h
  | ok u =>
    obtain ⟨a, ha, -⟩ := exists_configured_of_validate hv
    simp only [hv, ha] at h
    split at h <;> simp at h

/-- What is known of settings before a bind is made under them. -/
structure Usable (s : Settings) : Prop where
  /-- The answers about the directory settings agree. -/
  agree : s.ldap.AnswersAgree
  /-- Settings are valid where both sections are, and the fault of the directory comes first. -/
  valid_iff : s.validate = .ok () ↔ s.ldap.validate = .ok () ∧ s.logging.validate = .ok ()
  directory_first : ∀ f, s.ldap.validate = .error f → s.validate = .error f
  logging_next : s.ldap.validate = .ok () → s.validate = s.logging.validate
  /-- Valid directory settings have an address, which the dialer made of them knows. -/
  configured : s.ldap.validate = .ok () →
    ∃ a, s.ldap.address = .ok a ∧ (Dialer.ofSettings s.ldap).configured = some a
  /-- A bind never stops for want of an address. -/
  attempted : ∀ password bindDn net f,
    (performBind s password bindDn net).result ≠ .error ⟨none, f⟩

/-- **Validity and address go together** in all settings, for one section, for both, and for the
bind that asks for one after the other. -/
theorem usable_settings (s : Settings) : Usable s where
  agree := s.ldap.answersAgree
  valid_iff := Settings.validate_eq_ok_iff
  directory_first _ := Settings.validate_of_ldap_eq_error
  logging_next := Settings.validate_of_ldap_eq_ok
  configured := exists_configured_of_validate
  attempted := attempted_of_performBind s

end Gatekeeper.CommandLine
