import Gatekeeper.Proofs.CommandLine.BindRun
import Gatekeeper.Proofs.Directory.Address
import Gatekeeper.Proofs.Directory.Scheme

/-!
# No bind before the upgrade

Under settings with STARTTLS a connection starts plain and is upgraded before the bind. A dialer
that upgrades, or encrypts from the start, never leaves a bind with a server that listens in the
clear: one attempt adds none (`not_hasBind_guarded`), so neither does any number of them
(`not_hasBind_worldAfter`).

Valid settings with STARTTLS have such a dialer. Where its server refuses the upgrade, the request
for it is all that is received, and the failure is one of the connection, whatever the code of the
refusal means as the answer to a bind (`upgrade_fails_closed`).
-/

namespace Gatekeeper.Directory

open Credential (Attempt)

variable {session : Session} {timeout : UInt64} {dn p : String} {net : Network} {d : Dialer}

/-! ## Sessions that are not plain -/

theorem not_hasBind_bind (hs : session ≠ .plain) (hn : ¬ net.HasBind) :
    ¬ (bind session timeout dn p net).2.HasBind := by
  by_cases hl : net.Listens
  · obtain ⟨reply, hr, taken⟩ := hl
    cases session with
    | plain => exact absurd rfl hs
    | upgraded =>
      rw [bind_upgraded hr taken]
      simp [Network.HasBind]
    | encrypted =>
      rw [bind_encrypted hr taken]
      simp [Network.HasBind]
  · rw [bind_of_not_listens hl]
    exact hn

namespace Dialer

theorem not_hasBind_guarded (hs : d.session ≠ .plain) (a : Attempt) (hn : ¬ net.HasBind) :
    ¬ (Credential.guarded d.binder a net).world.HasBind := by
  by_cases ha : a.verdict = .allow
  · obtain ⟨c, rfl⟩ := Credential.exists_cleared_of_allow ha
    rw [Credential.guarded_toAttempt]
    by_cases hd : d.Dials c.server
    · rw [binder_of_dials hd]
      exact not_hasBind_bind hs hn
    · obtain ⟨fault, -, failed⟩ := binder_of_not_dials hd net
      rw [failed]
      exact hn
  · rw [Credential.guarded_of_rejected ha]
    exact hn

/-- **No bind is received** in a run of guarded binds, whatever the server answers. -/
theorem not_hasBind_worldAfter (hs : d.session ≠ .plain) (as : List Attempt)
    (hn : ¬ net.HasBind) : ¬ (Credential.worldAfter d.binder as net).HasBind := by
  induction as generalizing net with
  | nil => exact hn
  | cons a as ih => exact ih (not_hasBind_guarded hs a hn)

end Dialer

/-! ## A refused upgrade -/

/-- The server refuses the upgrade: it answers with a code other than zero. -/
structure Network.Refuses (net : Network) (code : UInt32) (matched text : String) : Prop where
  answer : net.server = some (.answers code matched text)
  code_ne : code ≠ 0

/-- The server received the request for an upgrade, and nothing else. -/
def upgradeAsked : Network := ⟨none, some (.extended startTlsOid)⟩

theorem not_hasBind_upgradeAsked : ¬ upgradeAsked.HasBind := by
  simp [Network.HasBind, upgradeAsked]

theorem Dialer.binder_of_refused {c : Credential.Cleared} {code : UInt32} {matched text : String}
    (hs : d.session = .upgraded) (hd : d.Dials c.server) (hr : net.Refuses code matched text) :
    d.binder c net =
      ⟨.error (.connection (upgradeRefusal code matched text)), d.dialEvents c, upgradeAsked⟩ := by
  have refusal : upgradeResult d.timeout (.answers code matched text) =
      .error (.connection (upgradeRefusal code matched text)) := if_neg hr.code_ne
  rw [binder_of_dials hd, hs, bind_upgraded hr.answer (by simp), refusal]
  rfl

/-- How an attempt ends whose server refused the upgrade. -/
structure FailsClosed (code : UInt32) (matched text : String)
    (t : Credential.Traced Network Credential.Outcome) : Prop where
  /-- The request for the upgrade is all that was received, so no name and no password were. -/
  received : t.world = upgradeAsked
  noBind : ¬ t.world.HasBind
  result : t.result = .error (.connection (upgradeRefusal code matched text))
  /-- The bind might succeed later. -/
  transient : ∀ f, t.result = .error f → f.isTransient = true
  /-- The code is not taken for the answer to a bind. -/
  notBound : t.result ≠ .ok .bound
  notCredentials : t.result ≠ .error .invalidCredentials
  notAccount : t.result ≠ .error .accountDisabled

theorem failsClosed_of_refused {a : Attempt} {code : UInt32} {matched text : String}
    (hs : d.session = .upgraded) (ha : a.verdict = .allow) (hd : d.Dials a.server)
    (hr : net.Refuses code matched text) :
    FailsClosed code matched text (Credential.guarded d.binder a net) := by
  obtain ⟨c, rfl⟩ := Credential.exists_cleared_of_allow ha
  rw [Credential.guarded_toAttempt, Dialer.binder_of_refused hs hd hr]
  exact {
    received := rfl
    noBind := not_hasBind_upgradeAsked
    result := rfl
    transient := by
      rintro f ⟨⟩
      rfl
    notBound := by simp [Except.map]
    notCredentials := by simp [Except.map]
    notAccount := by simp [Except.map] }

end Gatekeeper.Directory

namespace Gatekeeper.CommandLine

open Credential (Attempt)
open Directory (Dialer)

/-! ## Runs -/

/-- A run whose attempt was allowed, and whose server refused the upgrade, fails. -/
theorem run_of_refused {w : Surroundings} {args : List String} {a : Arguments} {c : Credentials}
    {s : Settings} {p : Option String} {code : UInt32} {matched text : String}
    (h : Arguments.read w.environment args = .ok a) (ht : a.task = .bind c) (hr : Ready w a c s p)
    (hv : c.verdict s p = .allow) (hs : s.ldap.startTls = true)
    (refused : w.network.Refuses code matched text) :
    (run w args).status = 1 ∧ (run w args).network = Directory.upgradeAsked := by
  obtain ⟨cleared, address, -, -, network, status⟩ := run_of_allowed h ht hr hv
  have upgraded := Dialer.session_eq_upgraded_of_validate hr.valid hs
  have failed := Dialer.binder_of_refused upgraded (Directory.dials_of_address address) refused
  rw [failed] at network status
  exact ⟨status, network⟩

/-- **STARTTLS fails closed**: under valid settings with STARTTLS no run of guarded binds leaves a
bind with the server; a refused upgrade ends an attempt as a broken connection does; and it ends the
process with status one. -/
theorem upgrade_fails_closed (s : Settings) (valid : s.ldap.validate = .ok ())
    (upgrade : s.ldap.startTls = true) :
    (∀ as net, ¬ net.HasBind →
      ¬ (Credential.worldAfter (Dialer.ofSettings s.ldap).binder as net).HasBind) ∧
    (∀ (a : Attempt) net code matched text, a.verdict = .allow →
      (Dialer.ofSettings s.ldap).Dials a.server → net.Refuses code matched text →
      Directory.FailsClosed code matched text
        (Credential.guarded (Dialer.ofSettings s.ldap).binder a net)) ∧
    ∀ w args a c p code matched text, Arguments.read w.environment args = .ok a →
      a.task = .bind c → Ready w a c s p → c.verdict s p = .allow →
      w.network.Refuses code matched text →
      (run w args).status = 1 ∧ (run w args).network = Directory.upgradeAsked := by
  have upgraded := Dialer.session_eq_upgraded_of_validate valid upgrade
  refine ⟨fun as net => ?_, fun a net code matched text ha hd hr => ?_, ?_⟩
  · exact Dialer.not_hasBind_worldAfter (by rw [upgraded]; decide) as
  · exact Directory.failsClosed_of_refused upgraded ha hd hr
  · intro w args a c p code matched text h ht hr hv refused
    exact run_of_refused h ht hr hv upgrade refused

/-- A server that refuses the upgrade with the code of wrong credentials, and the switch that asks
for it. -/
def Surroundings.refusing : Surroundings :=
  { Surroundings.bare (.answers 49 "" "no") with
    lookup := fun name => if name = Settings.Variable.startTls then some "true" else none }

theorem upgrade_fails_closed_on_refusal :
    Surroundings.refusing.network.Refuses 49 "" "no" ∧
    (run .refusing (bindLine "ldap://h")).status = 1 ∧
    (run .refusing (bindLine "ldap://h")).network = Directory.upgradeAsked := by
  have refused : Surroundings.refusing.network.Refuses 49 "" "no" := ⟨rfl, by decide⟩
  have closed := upgrade_fails_closed { ldap := { serverUrl := "ldap://h", startTls := true } }
    rfl rfl
  exact ⟨refused, closed.2.2 .refusing (bindLine "ldap://h") (bindArguments "ldap://h")
    ⟨some "pw", false, some "cn=a"⟩ (some "pw") 49 "" "no" rfl rfl ⟨rfl, rfl, rfl⟩ rfl refused⟩

end Gatekeeper.CommandLine
