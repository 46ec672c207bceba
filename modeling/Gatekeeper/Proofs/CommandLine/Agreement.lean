import Gatekeeper.Proofs.CommandLine.BindRun
import Gatekeeper.Proofs.Directory.Address

/-!
# `check` and `bind` agree

`check` judges what `bind` would send. The two come to the verdict in different ways: `check` asks
the validator about the text of the server URL, or about the password alone, and `bind` asks it
about the address and through the guard. Given the same settings and the same password they say the
same of the same name (`check_and_bind_agree`).

What `check` does is plain (`perform_check`). A session of `bind` with valid settings either skips
the bind and does nothing else (`perform_bind_of_rejected`), or it connects
(`goesOn_perform_bind`): the address in effect can always be dialed, because it leads back to the
server of the settings.
-/

namespace Gatekeeper.CommandLine

open Credential (Attempt Cleared Outcome Verdict)
open Directory (Dialer Network)

variable {w w' : Surroundings} {args args' : List String} {a b : Arguments} {c k : Credentials}
  {s : Settings} {p : Option String} {input : List UInt8} {net : Network} {address : String}

/-! ## Sessions -/

theorem perform_check (hp : c.password? input = .ok p) :
    perform s input net (.check c) = ⟨.ok (.judged (checkVerdict s p c.bindDn)), [], net⟩ := by
  rw [perform, withPassword, hp]

/-- The session of a bind that the verdict is against. -/
theorem perform_bind_of_rejected (hp : k.password? input = .ok p) (hv : s.ldap.validate = .ok ())
    (ha : s.ldap.address = .ok address) (hr : k.verdict s p ≠ .allow) :
    perform s input net (.bind k) =
      ⟨.ok (.bind address (k.name s) (.skipped (k.verdict s p))),
        [guardedBindEvent address (k.name s), Credential.skippedEvent address (k.verdict s p)],
        net⟩ := by
  rw [← verdict_eq k s p address] at hr ⊢
  have skipped : Credential.guarded (Dialer.ofSettings s.ldap).binder _ net = _ :=
    Credential.guarded_of_rejected hr net
  unfold Credentials.name at skipped ⊢
  simp only [perform, withPassword, hp, performBind, hv, ha, skipped]

/-- A session goes on to a server: it tells the URL of the address in effect, and what is left of
the network is what a connection there leaves. A server that listens has had its one connection
taken. -/
structure GoesOn (s : Settings) (name : String) (p : Option String) (net : Network) (t : Session) :
    Prop where
  told : ∃ address, s.ldap.address = .ok address ∧
    Dialer.connectingEvent ((Dialer.ofSettings s.ldap).url address) ∈ t.events
  connected : ∃ password, p = some password ∧
    t.network = (Directory.bind (Dialer.ofSettings s.ldap).session s.ldap.timeoutSeconds name
      password net).2
  taken : net.Listens → ∃ password, p = some password ∧
    t.network = ⟨none, (Dialer.ofSettings s.ldap).session.request name password⟩

/-- A session of a bind that is allowed goes on to the server, and was not skipped. -/
theorem goesOn_perform_bind (hp : k.password? input = .ok p) (hv : s.ldap.validate = .ok ())
    (hr : k.verdict s p = .allow) :
    GoesOn s (k.name s) p net (perform s input net (.bind k)) ∧
      ∀ address dn r, (perform s input net (.bind k)).result ≠
        .ok (.bind address dn (.skipped r)) := by
  obtain ⟨-, address, -, ha, -⟩ := Settings.Ldap.exists_address_of_validate hv
  rw [← verdict_eq k s p address] at hr
  obtain ⟨cleared, hc⟩ := Credential.exists_cleared_of_allow hr
  have bound := Credential.guarded_toAttempt (Dialer.ofSettings s.ldap).binder cleared net
  rw [hc] at bound
  rw [Cleared.toAttempt, Attempt.mk.injEq] at hc
  obtain ⟨rfl, hd, rfl⟩ := hc
  rw [Dialer.binder_of_dials (Directory.dials_of_address ha)] at bound
  unfold Credentials.name at hd bound ⊢
  simp only [perform, withPassword, hp, performBind, hv, ha, bound]
  refine ⟨⟨⟨_, ha, ?_⟩, ⟨_, rfl, by rw [hd]; rfl⟩, fun listens => ⟨_, rfl, ?_⟩⟩,
    fun address dn r hk => ?_⟩
  · simp [Dialer.dialEvents]
  · rw [← hd]
    exact Directory.network_bind_of_listens listens
  · split at hk
    · rename_i outcome ho
      rcases hb : (Directory.bind (Dialer.ofSettings s.ldap).session
          (Dialer.ofSettings s.ldap).timeout cleared.bindDn cleared.password net).1 with f | u
      · rw [hb] at ho
        cases ho
      · rw [hb] at ho
        cases ho
        cases hk
    · cases hk

/-- A skipped bind tells of no connection. -/
theorem not_goesOn_perform_bind (hp : k.password? input = .ok p) (hv : s.ldap.validate = .ok ())
    (hr : k.verdict s p ≠ .allow) :
    ¬ GoesOn s (k.name s) p net (perform s input net (.bind k)) := by
  obtain ⟨-, address, -, ha, -⟩ := Settings.Ldap.exists_address_of_validate hv
  rw [perform_bind_of_rejected hp hv ha hr]
  rintro ⟨⟨a, -, told⟩, -, -⟩
  rcases List.mem_cons.1 told with h | h
  · exact absurd (congrArg Log.Event.target h)
      (show Credential.guardTarget ≠ "bindguard::commands::bind" by decide)
  · exact absurd (congrArg Log.Event.level (List.mem_singleton.1 h))
      (show Log.Level.debug ≠ .warn by decide)

/-! ## Runs -/

/-- The run ends with an answer, which it writes, and a status. -/
structure Ends (w : Surroundings) (args : List String) (a : Arguments) (s : Settings)
    (status : UInt8) (answer : Answer) : Prop where
  session : (perform s w.input w.network a.task).result = .ok answer
  status : (run w args).status = status
  output : (run w args).output = answer.output a.output a.quiet (isColoured w.environment)

theorem ends_of_result (h : Arguments.read w.environment args = .ok a)
    (hs : a.settings w.environment w.file = .ok s) {answer : Answer}
    (hr : (perform s w.input w.network a.task).result = .ok answer) :
    Ends w args a s answer.status answer := by
  refine ⟨hr, ?_, ?_⟩
  · rw [run_eq_exit h hs, status_exit, hr]
  · rw [run_eq_exit h hs, Session.exit, hr]

theorem status_judged_eq_zero_iff {r : Verdict} : (Answer.judged r).status = 0 ↔ r = .allow := by
  cases r <;> decide

theorem status_judged_eq_two_iff {r : Verdict} : (Answer.judged r).status = 2 ↔ r ≠ .allow := by
  cases r <;> decide

theorem status_skipped (address dn : String) (r : Verdict) :
    (Answer.bind address dn (.skipped r)).status = 2 := by
  simp [Answer.status, Outcome.isBound, rejectedStatus]

theorem Ends.unique {status status' : UInt8} {answer answer' : Answer}
    (h : Ends w args a s status answer) (h' : Ends w args a s status' answer') :
    status = status' ∧ answer = answer' :=
  ⟨h.status.symm.trans h'.status, Except.ok.inj (h.session.symm.trans h'.session)⟩

/-! ## Agreement -/

/-- A run of `check` and a run of `bind` under the same valid settings and with the same password,
wherever each of them takes these from. -/
structure Paired (w : Surroundings) (args : List String) (a : Arguments) (c : Credentials)
    (w' : Surroundings) (args' : List String) (b : Arguments) (k : Credentials)
    (s : Settings) (p : Option String) : Prop where
  readCheck : Arguments.read w.environment args = .ok a
  readBind : Arguments.read w'.environment args' = .ok b
  check : a.task = .check c
  bind : b.task = .bind k
  settings : a.settings w.environment w.file = .ok s
  settingsBind : b.settings w'.environment w'.file = .ok s
  password : c.password? w.input = .ok p
  passwordBind : k.password? w'.input = .ok p
  valid : s.ldap.validate = .ok ()

/-- What a run of `check` says of a run of `bind`. -/
structure Agree (w : Surroundings) (args : List String) (a : Arguments) (c : Credentials)
    (w' : Surroundings) (args' : List String) (b : Arguments) (k : Credentials)
    (s : Settings) (p : Option String) : Prop where
  /-- On the name of the bind, `check` rejects with a verdict exactly when the bind is skipped with
  that verdict. -/
  rejects_iff : c.bindDn = some (k.name s) → ∀ r,
    Ends w args a s 2 (.judged r) ↔
      ∃ address, s.ldap.address = .ok address ∧
        Ends w' args' b s 2 (.bind address (k.name s) (.skipped r))
  /-- On the name of the bind, `check` allows exactly when the bind goes on to the server. -/
  allows_iff : c.bindDn = some (k.name s) →
    ((run w args).status = 0 ↔
      GoesOn s (k.name s) p w'.network (perform s w'.input w'.network b.task))
  /-- The verdict is the same whatever the server is called. -/
  verdict : ∀ server server' dn,
    Attempt.verdict ⟨server, dn, p⟩ = Attempt.verdict ⟨server', dn, p⟩
  /-- A password that `check` rejects alone is rejected for every name, as an empty one. -/
  rejects_alone : c.bindDn = none → (run w args).status = 2 →
    ∃ address, s.ldap.address = .ok address ∧
      Ends w' args' b s 2 (.bind address (k.name s) (.skipped .rejectEmptyPassword))

namespace Paired

theorem check_ends (h : Paired w args a c w' args' b k s p) :
    Ends w args a s (Answer.judged (checkVerdict s p c.bindDn)).status
      (.judged (checkVerdict s p c.bindDn)) := by
  refine ends_of_result h.readCheck h.settings ?_
  rw [h.check, perform_check h.password]

theorem bind_ends (h : Paired w args a c w' args' b k s p) (hr : k.verdict s p ≠ .allow) :
    ∃ address, s.ldap.address = .ok address ∧
      Ends w' args' b s 2 (.bind address (k.name s) (.skipped (k.verdict s p))) := by
  obtain ⟨-, address, -, ha, -⟩ := Settings.Ldap.exists_address_of_validate h.valid
  have session : (perform s w'.input w'.network b.task).result =
      .ok (.bind address (k.name s) (.skipped (k.verdict s p))) := by
    rw [h.bind, perform_bind_of_rejected h.passwordBind h.valid ha hr]
  have ends := ends_of_result h.readBind h.settingsBind session
  rw [status_skipped] at ends
  exact ⟨address, ha, ends⟩

end Paired

theorem checkVerdict_of_name (hn : c.bindDn = some (k.name s)) :
    checkVerdict s p c.bindDn = k.verdict s p := by
  rw [hn]
  rfl

/-- **`check` and `bind` agree** under the same settings and with the same password. -/
theorem check_and_bind_agree (h : Paired w args a c w' args' b k s p) :
    Agree w args a c w' args' b k s p where
  rejects_iff hn r := by
    have checked := h.check_ends
    rw [checkVerdict_of_name hn] at checked
    constructor
    · intro rejected
      obtain ⟨two, same⟩ := rejected.unique checked
      obtain rfl := Answer.judged.inj same
      exact h.bind_ends (status_judged_eq_two_iff.1 two.symm)
    · rintro ⟨address, -, skipped⟩
      by_cases hv : k.verdict s p = .allow
      · exact absurd (h.bind ▸ skipped.session)
          ((goesOn_perform_bind h.passwordBind h.valid hv).2 _ _ _)
      · obtain ⟨_, -, ends⟩ := h.bind_ends hv
        obtain rfl : r = k.verdict s p := by
          have same := (skipped.unique ends).2
          injection same with _ _ ho
          exact Outcome.skipped.inj ho
        rwa [status_judged_eq_two_iff.2 hv] at checked
  allows_iff hn := by
    have checked := h.check_ends
    rw [checkVerdict_of_name hn] at checked
    rw [checked.status, status_judged_eq_zero_iff, h.bind]
    constructor
    · intro hv
      exact (goesOn_perform_bind h.passwordBind h.valid hv).1
    · intro goes
      by_contra hv
      exact not_goesOn_perform_bind h.passwordBind h.valid hv goes
  verdict server server' dn := Attempt.verdict_of_server ..
  rejects_alone hn h2 := by
    have checked := h.check_ends
    rw [hn] at checked
    have alone : Credential.passwordVerdict p ≠ .allow :=
      status_judged_eq_two_iff.1 (checked.status.symm.trans h2)
    have empty : k.verdict s p = .rejectEmptyPassword := Attempt.verdict_of_passwordVerdict alone
    have ends := h.bind_ends (by rw [empty]; decide)
    rwa [empty] at ends

/-- A command line that checks a name with a blank password. -/
def blankCheck : List String :=
  ["check", "--server", "ldap://h", "--bind-dn", "cn=a", "--password", " "]

/-- What it is read as. -/
def blankCheckArguments : Arguments where
  task := .check ⟨some " ", false, some "cn=a"⟩
  configFile := none
  server := some "ldap://h"
  logLevel := none
  output := .text
  quiet := false

/-- A command line that binds under the name with the same password. -/
def blankBind : List String :=
  ["bind", "--server", "ldap://h", "--bind-dn", "cn=a", "--password", " "]

theorem check_and_bind_agree_on_blank :
    ∃ b k s p, Paired (.bare (.answers 0 "" "")) blankCheck blankCheckArguments
        ⟨some " ", false, some "cn=a"⟩ (.bare (.answers 0 "" "")) blankBind b k s p ∧
      Agree (.bare (.answers 0 "" "")) blankCheck blankCheckArguments
        ⟨some " ", false, some "cn=a"⟩ (.bare (.answers 0 "" "")) blankBind b k s p := by
  have paired : Paired (.bare (.answers 0 "" "")) blankCheck blankCheckArguments
      ⟨some " ", false, some "cn=a"⟩ (.bare (.answers 0 "" "")) blankBind
      { blankCheckArguments with task := .bind ⟨some " ", false, some "cn=a"⟩ }
      ⟨some " ", false, some "cn=a"⟩ { ldap := { serverUrl := "ldap://h" } } (some " ") :=
    ⟨rfl, rfl, rfl, rfl, rfl, rfl, rfl, rfl, rfl⟩
  exact ⟨_, _, _, _, paired, check_and_bind_agree paired⟩

end Gatekeeper.CommandLine
