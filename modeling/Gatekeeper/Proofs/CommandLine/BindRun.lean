import Gatekeeper.CommandLine.Process
import Gatekeeper.Proofs.Credential.GuardedRun
import Gatekeeper.Proofs.Directory.Exchange
import Gatekeeper.Proofs.Settings.Address

/-!
# Runs that bind

A run of `bind` has three stages: it gets `Ready` (settings, password, valid directory settings),
the verdict is given, and only then the directory is dialed. `run_of_not_ready`, `run_of_rejected`
and `run_of_allowed` say what status and network each stage leaves; between them they are all the
runs of `bind`. The other commands leave the network alone (`network_run_of_not_bind`).

`accounted_run` puts this together: what the server can ever receive, and what each status of the
process means.
-/

namespace Gatekeeper.CommandLine

open Credential (Attempt Cleared Outcome Traced Verdict)
open Directory (Dialer Network)

variable {w : Surroundings} {args : List String} {a : Arguments} {c : Credentials} {s : Settings}
  {p : Option String}

/-! ## The stages -/

/-- The name to bind as: the one of the command line, or else the configured one. -/
def Credentials.name (c : Credentials) (s : Settings) : String := c.bindDn.getD s.ldap.bindDn

/-- The verdict on the name and the password of a bind. -/
def Credentials.verdict (c : Credentials) (s : Settings) (p : Option String) : Verdict :=
  Attempt.verdict ⟨s.ldap.serverUrl, c.name s, p⟩

/-- All that a bind needs before the verdict: the settings were loaded, the password was read, and
the directory settings are valid. -/
structure Ready (w : Surroundings) (a : Arguments) (c : Credentials) (s : Settings)
    (p : Option String) : Prop where
  settings : a.settings w.environment w.file = .ok s
  password : c.password? w.input = .ok p
  valid : s.ldap.validate = .ok ()

theorem run_eq (h : Arguments.read w.environment args = .ok a) :
    run w args = a.run w.environment w := by
  rw [run, h]

theorem run_eq_exit (h : Arguments.read w.environment args = .ok a)
    (hs : a.settings w.environment w.file = .ok s) :
    run w args = (perform s w.input w.network a.task).exit s a w.environment := by
  rw [run_eq h, Arguments.run, hs]

theorem network_exit (s : Settings) (a : Arguments) (env : Settings.Lookup) (session : Session) :
    (session.exit s a env).network = session.network := by
  rcases h : session.result with trouble | answer <;> simp only [Session.exit, h]

theorem status_exit (s : Settings) (a : Arguments) (env : Settings.Lookup) (session : Session) :
    (session.exit s a env).status =
      match session.result with
      | .ok answer => answer.status
      | .error _ => failedStatus := by
  rcases h : session.result with trouble | answer <;> simp only [Session.exit, h]

/-- An answer is told from a failure by its status. -/
theorem status_answer_ne (answer : Answer) : answer.status ≠ failedStatus := by
  unfold Answer.status
  split
  · split <;> decide
  · split <;> decide
  · decide

/-- Commands other than `bind` leave the network alone. -/
theorem network_run_of_not_bind (h : Arguments.read w.environment args = .ok a)
    (ht : ∀ c, a.task ≠ .bind c) : (run w args).network = w.network := by
  rcases hs : a.settings w.environment w.file with f | s
  · rw [run_eq h, Arguments.run, hs]
  · rw [run_eq_exit h hs, network_exit]
    cases hk : a.task with
    | check c =>
      simp only [perform, withPassword]
      split <;> rfl
    | bind c => exact absurd hk (ht c)
    | config => rfl

theorem run_of_not_ready (h : Arguments.read w.environment args = .ok a) (ht : a.task = .bind c)
    (hr : ∀ s p, ¬ Ready w a c s p) :
    (run w args).status = failedStatus ∧ (run w args).network = w.network := by
  rcases hs : a.settings w.environment w.file with f | s
  · rw [run_eq h, Arguments.run, hs]
    exact ⟨rfl, rfl⟩
  · rw [run_eq_exit h hs, network_exit, status_exit, ht]
    rcases hp : c.password? w.input with f | p
    · simp only [perform, withPassword, hp, Session.failed, and_self]
    · rcases hv : s.ldap.validate with f | u
      · simp only [perform, withPassword, hp, performBind, hv, Session.failed, and_self]
      · exact absurd ⟨hs, hp, hv⟩ (hr s p)

/-- The status that a guarded bind leads to. -/
def statusOf : Except Failure Outcome → UInt8
  | .ok outcome => if outcome.isBound then 0 else rejectedStatus
  | .error _ => failedStatus

/-- Once all is ready, the run is a guarded bind of the address that the settings name. -/
theorem run_of_ready (h : Arguments.read w.environment args = .ok a) (ht : a.task = .bind c)
    (hr : Ready w a c s p) {address : String} (ha : s.ldap.address = .ok address)
    {t : Traced Network Outcome}
    (hg : Credential.guarded (Dialer.ofSettings s.ldap).binder ⟨address, c.name s, p⟩ w.network =
      t) :
    (run w args).network = t.world ∧ (run w args).status = statusOf t.result := by
  have session : perform s w.input w.network a.task = performBind s p c.bindDn w.network := by
    rw [ht, perform, withPassword, hr.password]
  rw [run_eq_exit h hr.settings, session, network_exit, status_exit]
  unfold Credentials.name at hg
  simp only [performBind, hr.valid, ha, hg, true_and]
  rcases t.result with f | outcome <;> rfl

theorem verdict_eq (c : Credentials) (s : Settings) (p : Option String) (address : String) :
    Attempt.verdict ⟨address, c.name s, p⟩ = c.verdict s p :=
  Attempt.verdict_of_server ..

theorem run_of_rejected (h : Arguments.read w.environment args = .ok a) (ht : a.task = .bind c)
    (hr : Ready w a c s p) (hv : c.verdict s p ≠ .allow) :
    (run w args).status = rejectedStatus ∧ (run w args).network = w.network := by
  obtain ⟨-, address, -, ha, -⟩ := Settings.Ldap.exists_address_of_validate hr.valid
  rw [← verdict_eq c s p address] at hv
  obtain ⟨hn, hst⟩ := run_of_ready h ht hr ha (Credential.guarded_of_rejected hv w.network)
  exact ⟨hst, hn⟩

/-- An allowed bind is dialed as it was asked for, and its result decides on the status. -/
theorem run_of_allowed (h : Arguments.read w.environment args = .ok a) (ht : a.task = .bind c)
    (hr : Ready w a c s p) (hv : c.verdict s p = .allow) :
    ∃ cleared : Cleared,
      s.ldap.address = .ok cleared.server ∧ cleared.bindDn = c.name s ∧
      p = some cleared.password ∧
      (run w args).network = ((Dialer.ofSettings s.ldap).binder cleared w.network).world ∧
      (run w args).status =
        statusOf (((Dialer.ofSettings s.ldap).binder cleared w.network).result.map
          fun _ => .bound) := by
  obtain ⟨-, address, -, ha, -⟩ := Settings.Ldap.exists_address_of_validate hr.valid
  rw [← verdict_eq c s p address] at hv
  obtain ⟨cleared, hc⟩ := Credential.exists_cleared_of_allow hv
  have hg := Credential.guarded_toAttempt (Dialer.ofSettings s.ldap).binder cleared w.network
  rw [hc] at hg
  obtain ⟨hn, hst⟩ := run_of_ready h ht hr ha hg
  dsimp only at hn hst
  rw [Cleared.toAttempt, Attempt.mk.injEq] at hc
  obtain ⟨rfl, hd, rfl⟩ := hc
  exact ⟨cleared, ha, hd, rfl, hn, hst⟩

/-! ## What the server receives, and what the status means -/

/-- **The runs of `bind`**: not ready, rejected, or allowed. -/
theorem bind_run_cases (h : Arguments.read w.environment args = .ok a) (ht : a.task = .bind c) :
    ((run w args).status = 1 ∧ (run w args).network = w.network ∧ ∀ s p, ¬ Ready w a c s p) ∨
    (∃ s p, Ready w a c s p ∧ c.verdict s p ≠ .allow ∧
      (run w args).status = 2 ∧ (run w args).network = w.network) ∨
    ∃ s p, Ready w a c s p ∧ c.verdict s p = .allow := by
  by_cases hr : ∃ s p, Ready w a c s p
  · obtain ⟨s, p, hr⟩ := hr
    by_cases hv : c.verdict s p = .allow
    · exact Or.inr (Or.inr ⟨s, p, hr, hv⟩)
    · exact Or.inr (Or.inl ⟨s, p, hr, hv, run_of_rejected h ht hr hv⟩)
  · have hr : ∀ s p, ¬ Ready w a c s p := fun s p hsp => hr ⟨s, p, hsp⟩
    obtain ⟨hst, hn⟩ := run_of_not_ready h ht hr
    exact Or.inl ⟨hst, hn, hr⟩

theorem not_hasBind_of_eq {net : Network} (fresh : w.network.request = none)
    (hn : net = w.network) : ¬ net.HasBind := by
  rintro ⟨version, name, password, hq⟩
  rw [hn, fresh] at hq
  cases hq

/-- The settings and the password that a bind gets are those of the run. -/
theorem Ready.unique {s' : Settings} {p' : Option String} (h : Ready w a c s p)
    (h' : Ready w a c s' p') : s' = s ∧ p' = p :=
  ⟨Except.ok.inj (h'.settings.symm.trans h.settings),
    Except.ok.inj (h'.password.symm.trans h.password)⟩

theorem statusOf_map_eq_zero_iff {r : Except Failure Unit} :
    statusOf (r.map fun _ => .bound) = 0 ↔ r = .ok () := by
  rcases r with f | u
  · exact iff_of_false (by simp [statusOf, Except.map, failedStatus]) (by simp)
  · exact iff_of_true rfl rfl

theorem statusOf_map_of_ne {r : Except Failure Unit} (h : r ≠ .ok ()) :
    statusOf (r.map fun _ => .bound) = failedStatus := by
  rcases r with f | u
  · rfl
  · exact absurd rfl h

/-- All that a bind needs to reach a server: it is ready and allowed, its address can be dialed, and
the connection is taken. -/
structure Connects (w : Surroundings) (a : Arguments) (c : Credentials) (s : Settings)
    (p : Option String) : Prop extends Ready w a c s p where
  allowed : c.verdict s p = .allow
  dials : ∃ address, s.ldap.address = .ok address ∧ (Dialer.ofSettings s.ldap).Dials address
  listens : w.network.Listens

/-- Over a fresh network a server receives the bind of a run that connects without encryption. -/
theorem request_run_iff (h : Arguments.read w.environment args = .ok a)
    (fresh : w.network.request = none) {version : Nat} {name password : String} :
    (run w args).network.request = some (.simpleBind version name password) ↔
      ∃ c s, a.task = .bind c ∧ Connects w a c s (some password) ∧
        (Dialer.ofSettings s.ldap).session = .plain ∧ version = 3 ∧ name = c.name s := by
  constructor
  · intro hq
    -- What stops before the dialer leaves the network as it was.
    have unchanged : (run w args).network ≠ w.network :=
      fun hn => not_hasBind_of_eq fresh hn ⟨_, _, _, hq⟩
    by_cases hb : ∃ c, a.task = .bind c
    · obtain ⟨c, ht⟩ := hb
      rcases bind_run_cases h ht with ⟨-, hn, -⟩ | ⟨-, -, -, -, -, hn⟩ | ⟨s, p, hr, hv⟩
      · exact absurd hn unchanged
      · exact absurd hn unchanged
      · obtain ⟨cleared, ha, hname, rfl, hn, -⟩ := run_of_allowed h ht hr hv
        rw [hn, Dialer.request_binder_iff fresh] at hq
        obtain ⟨hd, plain, hl, hver, rfl, rfl⟩ := hq
        exact ⟨c, s, ht, ⟨hr, hv, ⟨_, ha, hd⟩, hl⟩, plain, hver, hname⟩
    · have ht : ∀ c, a.task ≠ .bind c := fun c hc => hb ⟨c, hc⟩
      exact absurd (network_run_of_not_bind h ht) unchanged
  · rintro ⟨c, s, ht, hc, plain, rfl, rfl⟩
    obtain ⟨cleared, ha, hname, hp, hn, -⟩ := run_of_allowed h ht hc.toReady hc.allowed
    obtain ⟨address, ha', hd⟩ := hc.dials
    obtain rfl : cleared.server = address := Except.ok.inj (ha.symm.trans ha')
    rw [hn, Dialer.request_binder_iff fresh]
    exact ⟨hd, plain, hc.listens, rfl, hname.symm, Option.some.inj hp⟩

/-- The status of a run in which the attempt was allowed. -/
theorem status_of_allowed (h : Arguments.read w.environment args = .ok a)
    (fresh : w.network.request = none) (ht : a.task = .bind c) (hr : Ready w a c s p)
    (hv : c.verdict s p = .allow) :
    ((run w args).status = 0 ↔ (run w args).network.HasBind ∧
      ∃ matched text, w.network.server = some (.answers 0 matched text)) ∧
    ((run w args).status = 0 ∨ (run w args).status = 1) := by
  obtain ⟨cleared, -, -, -, hn, hst⟩ := run_of_allowed h ht hr hv
  rw [hn, hst, statusOf_map_eq_zero_iff]
  constructor
  · rw [Dialer.result_binder_eq_ok_iff]
    constructor
    · rintro ⟨hd, hplain, matched, text, hs⟩
      have received := (Dialer.request_binder_iff fresh).2
        ⟨hd, hplain, ⟨_, hs, by simp⟩, rfl, rfl, rfl⟩
      exact ⟨⟨_, _, _, received⟩, matched, text, hs⟩
    · rintro ⟨⟨version, name, password, received⟩, answer⟩
      obtain ⟨hd, hplain, -⟩ := (Dialer.request_binder_iff fresh).1 received
      exact ⟨hd, hplain, answer⟩
  · by_cases ho : ((Dialer.ofSettings s.ldap).binder cleared w.network).result = .ok ()
    · exact Or.inl ho
    · exact Or.inr (statusOf_map_of_ne ho)

/-- What a run can do to the server, and what its status says of it. -/
structure Accounted (w : Surroundings) (args : List String) (a : Arguments) : Prop where
  /-- The server receives a bind only from a run of `bind` that was ready and allowed, in the third
  version of the protocol, under the name and with the password of the run. -/
  received : ∀ version name password,
    (run w args).network.request = some (.simpleBind version name password) →
    ∃ c s, a.task = .bind c ∧ Ready w a c s (some password) ∧
      c.verdict s (some password) = .allow ∧ version = 3 ∧ name = c.name s
  /-- The other commands send nothing. -/
  silent : (∀ c, a.task ≠ .bind c) → (run w args).network = w.network
  /-- Zero says that the server answered the bind with code zero. -/
  zero_iff : ∀ c, a.task = .bind c → ((run w args).status = 0 ↔
    (run w args).network.HasBind ∧
      ∃ matched text, w.network.server = some (.answers 0 matched text))
  /-- Two says that all was ready and that the verdict was against the bind. -/
  two_iff : ∀ c, a.task = .bind c → ((run w args).status = 2 ↔
    ∃ s p, Ready w a c s p ∧ c.verdict s p ≠ .allow)
  /-- A rejected bind sends nothing. -/
  silent_of_two : ∀ c, a.task = .bind c → (run w args).status = 2 →
    (run w args).network = w.network
  /-- One says all the rest. -/
  one_of_ne : ∀ c, a.task = .bind c → (run w args).status ≠ 0 → (run w args).status ≠ 2 →
    (run w args).status = 1

/-- **Safety of a run and the meaning of its status**, over a network on which nothing was received
yet. -/
theorem accounted_run (h : Arguments.read w.environment args = .ok a)
    (fresh : w.network.request = none) : Accounted w args a where
  received version name password hq := by
    obtain ⟨c, s, ht, hc, -, hver, hname⟩ := (request_run_iff h fresh).1 hq
    exact ⟨c, s, ht, hc.toReady, hc.allowed, hver, hname⟩
  silent := network_run_of_not_bind h
  zero_iff c ht := by
    rcases bind_run_cases h ht with ⟨hst, hn, -⟩ | ⟨-, -, -, -, hst, hn⟩ | ⟨s, p, hr, hv⟩
    · exact iff_of_false (by rw [hst]; decide) fun hb => not_hasBind_of_eq fresh hn hb.1
    · exact iff_of_false (by rw [hst]; decide) fun hb => not_hasBind_of_eq fresh hn hb.1
    · exact (status_of_allowed h fresh ht hr hv).1
  two_iff c ht := by
    rcases bind_run_cases h ht with ⟨hst, -, hr⟩ | ⟨s, p, hr, hv, hst, -⟩ | ⟨s, p, hr, hv⟩
    · exact iff_of_false (by rw [hst]; decide) fun ⟨s, p, hsp, _⟩ => hr s p hsp
    · exact iff_of_true hst ⟨s, p, hr, hv⟩
    · refine iff_of_false ?_ ?_
      · rcases (status_of_allowed h fresh ht hr hv).2 with hst | hst <;> simp [hst]
      · rintro ⟨s', p', hr', hv'⟩
        obtain ⟨rfl, rfl⟩ := hr.unique hr'
        exact hv' hv
  silent_of_two c ht h2 := by
    rcases bind_run_cases h ht with ⟨-, hn, -⟩ | ⟨-, -, -, -, -, hn⟩ | ⟨s, p, hr, hv⟩
    · exact hn
    · exact hn
    · rcases (status_of_allowed h fresh ht hr hv).2 with hst | hst <;> simp [hst] at h2
  one_of_ne c ht h0 h2 := by
    rcases bind_run_cases h ht with ⟨hst, -, -⟩ | ⟨-, -, -, -, hst, -⟩ | ⟨s, p, hr, hv⟩
    · exact hst
    · exact absurd hst h2
    · exact (status_of_allowed h fresh ht hr hv).2.resolve_left h0

/-- Surroundings with a server, and nothing else. -/
def Surroundings.bare (reply : Directory.Reply) : Surroundings where
  lookup _ := none
  file _ := .unreadable SystemError.notFound
  input := []
  network := ⟨some reply, none⟩

/-- A command line for a bind to a server. -/
def bindLine (serverUrl : String) : List String :=
  ["bind", "--server", serverUrl, "--bind-dn", "cn=a", "--password", "pw"]

/-- What `bindLine` is read as, where no variable is set. -/
def bindArguments (serverUrl : String) : Arguments where
  task := .bind ⟨some "pw", false, some "cn=a"⟩
  configFile := none
  server := some serverUrl
  logLevel := none
  output := .text
  quiet := false

theorem accounted_run_bare :
    Arguments.read (Surroundings.bare (.answers 0 "" "")).environment (bindLine "ldap://h") =
      .ok (bindArguments "ldap://h") ∧
    (Surroundings.bare (.answers 0 "" "")).network.request = none ∧
    Accounted (.bare (.answers 0 "" "")) (bindLine "ldap://h") (bindArguments "ldap://h") :=
  ⟨rfl, rfl, accounted_run rfl rfl⟩

end Gatekeeper.CommandLine
