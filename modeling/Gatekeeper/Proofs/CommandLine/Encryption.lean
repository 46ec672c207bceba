import Gatekeeper.Proofs.CommandLine.BindRun
import Gatekeeper.Proofs.Directory.Scheme

/-!
# Binds in the clear

What the spelling of a server URL means for a run: a bind whose URL is of the encrypted scheme is
sent in the clear just when it could be sent at all and the scheme is not spelled out
(`hasBind_run_iff_of_tls`). `dialed_as_spelled` says so together with the URL that is dialed, and
`sent_in_capitals` is a run whose server gets the password that way.
-/

namespace Gatekeeper.CommandLine

open Directory (Dialer Network)
open Directory.Dialer (KeepsScheme SpelledTls)

variable {w : Surroundings} {args : List String} {a : Arguments} {c : Credentials} {s : Settings}
  {u : Url}

/-- A run of `bind` with settings whose URL is of the encrypted scheme. -/
structure BindsTls (w : Surroundings) (args : List String) (a : Arguments) (c : Credentials)
    (s : Settings) (u : Url) : Prop where
  read : Arguments.read w.environment args = .ok a
  task : a.task = .bind c
  settings : a.settings w.environment w.file = .ok s
  url : s.ldap.url = .ok u
  scheme : u.scheme = "ldaps".toList
  /-- Nothing was received before the run. -/
  fresh : w.network.request = none

/-- **A bind in the clear**, of a run whose URL asks for encryption. -/
theorem hasBind_run_iff_of_tls (h : BindsTls w args a c s u) :
    (run w args).network.HasBind ↔ ¬ SpelledTls s.ldap ∧ ∃ p, Connects w a c s p := by
  constructor
  · rintro ⟨version, name, password, hq⟩
    obtain ⟨c', s', ht, hc, plain, -, -⟩ := (request_run_iff h.read h.fresh).1 hq
    obtain rfl : c = c' := Task.bind.inj (h.task.symm.trans ht)
    obtain rfl : s = s' := Except.ok.inj (h.settings.symm.trans hc.settings)
    have spelled := (Dialer.session_eq_plain_iff_of_validate h.url h.scheme hc.valid).1 plain
    exact ⟨spelled, _, hc⟩
  · rintro ⟨spelled, p, hc⟩
    have plain := (Dialer.session_eq_plain_iff_of_validate h.url h.scheme hc.valid).2 spelled
    obtain ⟨cleared, -, -, rfl, -, -⟩ := run_of_allowed h.read h.task hc.toReady hc.allowed
    exact ⟨_, _, _, (request_run_iff h.read h.fresh).2 ⟨c, s, h.task, hc, plain, rfl, rfl⟩⟩

/-- **What is dialed follows the spelling.** Valid settings are dialed at their own address, with
the encrypted scheme just where it is spelled out, so the scheme of their URL is kept just where
`ldaps` is never spelled in another way. A run whose URL is of that scheme sends its bind in the
clear just when it gets as far as the server and the scheme is spelled in another way. -/
theorem dialed_as_spelled (s : Settings) :
    (s.ldap.validate = .ok () →
      ∃ u address, s.ldap.url = .ok u ∧ s.ldap.address = .ok address ∧
        (Dialer.ofSettings s.ldap).isConfigured address = true ∧
        ((Dialer.ofSettings s.ldap).url address = "ldaps://" ++ address ↔ SpelledTls s.ldap) ∧
        ((Dialer.ofSettings s.ldap).url address = "ldap://" ++ address ↔ ¬ SpelledTls s.ldap) ∧
        (KeepsScheme s.ldap u address ↔ (u.scheme = "ldaps".toList → SpelledTls s.ldap))) ∧
    ∀ w args a c u, BindsTls w args a c s u →
      ((run w args).network.HasBind ↔ ¬ SpelledTls s.ldap ∧ ∃ p, Connects w a c s p) := by
  refine ⟨fun hv => ?_, fun _ _ _ _ _ => hasBind_run_iff_of_tls⟩
  obtain ⟨u, address, hu, ha, -⟩ := Settings.Ldap.exists_address_of_validate hv
  have configured : (Dialer.ofSettings s.ldap).isConfigured address = true := by
    simp [Dialer.isConfigured, Dialer.ofSettings, ha, Except.toOption]
  exact ⟨u, address, hu, ha, configured, Dialer.url_eq_tls_iff, Dialer.url_eq_plain_iff,
    Dialer.keepsScheme_iff hu⟩

/-- Spelled out, the encrypted scheme is dialed, and no bind arrives in the clear. -/
theorem dialed_as_spelled_out :
    (Dialer.ofSettings { serverUrl := "ldaps://h" }).url "h:636" = "ldaps://h:636" ∧
    ¬ (run (.bare (.answers 0 "" "")) (bindLine "ldaps://h")).network.HasBind := by
  have spelled : SpelledTls { serverUrl := "ldaps://h" } := ⟨['h'], rfl⟩
  obtain ⟨dialed, received⟩ := dialed_as_spelled { ldap := { serverUrl := "ldaps://h" } }
  obtain ⟨u, address, -, ha, -, tls_iff, -⟩ := dialed rfl
  obtain rfl : "h:636" = address := Except.ok.inj ha
  refine ⟨tls_iff.2 spelled, fun hb => ?_⟩
  have run : BindsTls (.bare (.answers 0 "" "")) (bindLine "ldaps://h") (bindArguments "ldaps://h")
      ⟨some "pw", false, some "cn=a"⟩ { ldap := { serverUrl := "ldaps://h" } } _ :=
    ⟨rfl, rfl, rfl, rfl, rfl, rfl⟩
  exact ((received _ _ _ _ _ run).1 hb).1 spelled

/-- Settings of the encrypted scheme that do not spell it out. -/
def inCapitals : Settings.Ldap := { serverUrl := "LDAPS://h" }

/-- The scheme in capitals is valid and of the encrypted port, and the server gets the password in
the clear. -/
theorem sent_in_capitals :
    inCapitals.validate = .ok () ∧ inCapitals.address = .ok "h:636" ∧
    (∃ u, inCapitals.url = .ok u ∧ u.scheme = "ldaps".toList ∧
      ¬ KeepsScheme inCapitals u "h:636") ∧
    (Dialer.ofSettings inCapitals).url "h:636" = "ldap://h:636" ∧
    (run (.bare (.answers 0 "" "")) (bindLine "LDAPS://h")).network.request =
      some (.simpleBind 3 "cn=a" "pw") := by
  refine ⟨rfl, rfl, ⟨_, rfl, rfl, fun h => ?_⟩, rfl, by decide +kernel⟩
  exact absurd (h.1.2 rfl) (by decide)

end Gatekeeper.CommandLine
