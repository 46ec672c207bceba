import Gatekeeper.Proofs.Credential.GuardedRun
import Gatekeeper.Proofs.Directory.Address

/-!
# What comes of a plain bind

A server answers a plain bind with a result code, or there is no answer: nothing comes until the
time is over, or the connection breaks because nobody takes it or because it is closed
(`Network.answers_or`). The failures of a plain bind are listed once, each with what the server did
(`plain_bind_fails_iff`): those that stand are its answers (`fails_for_good_iff`), those that may
pass come from there being none (`fails_for_now_iff`).

The kinds of result are read off that list. They divide among them all that a server can do: the
code zero is success, two codes have failures of their own, and any other code is told with its text
(`classified_plain_bind`).
-/

namespace Gatekeeper.Directory

open Credential (Attempt Outcome Traced)
open Settings (Ldap)

variable {timeout seconds : UInt64} {dn p text : String} {code : UInt32} {net : Network}
  {f : Failure}

/-! ## What the server does -/

namespace Network

/-- The server answers with a result code and a text, whatever it matched of the name. -/
def Answers (net : Network) (code : UInt32) (text : String) : Prop :=
  ∃ matched, net.server = some (.answers code matched text)

/-- A connection breaks: nobody takes it, or it is closed. -/
def Breaks (net : Network) : Prop := ¬ net.Listens ∨ net.server = some .closes

theorem not_listens_iff : ¬ net.Listens ↔ net.server = none ∨ net.server = some .refuses := by
  unfold Listens
  rcases net.server with - | (_ | _ | _ | _) <;> simp

theorem answers_iff {c : UInt32} {matched m : String}
    (h : net.server = some (.answers code matched text)) :
    net.Answers c m ↔ c = code ∧ m = text := by
  simp [Answers, h, eq_comm]

theorem Answers.ne_silent (h : net.Answers code text) : net.server ≠ some .silent := by
  obtain ⟨matched, hs⟩ := h
  simp [hs]

theorem Answers.not_breaks (h : net.Answers code text) : ¬ net.Breaks := by
  obtain ⟨matched, hs⟩ := h
  rintro (hl | hc)
  · exact hl ⟨_, hs, by simp⟩
  · simp [hs] at hc

/-- A server answers, or it never does, or the connection breaks. -/
theorem answers_or (net : Network) :
    (∃ code text, net.Answers code text) ∨ net.server = some .silent ∨ net.Breaks := by
  by_cases hl : net.Listens
  · obtain ⟨reply, hs, hr⟩ := hl
    cases reply with
    | answers code matched text => exact Or.inl ⟨code, text, matched, hs⟩
    | closes => exact Or.inr (Or.inr (Or.inr hs))
    | silent => exact Or.inr (Or.inl hs)
    | refuses => exact absurd rfl hr
  · exact Or.inr (Or.inr (Or.inl hl))

end Network

/-! ## Results -/

theorem plain_bind_succeeds_iff :
    (bind .plain timeout dn p net).1 = .ok () ↔ ∃ text, net.Answers 0 text := by
  rw [bind_eq_ok_iff]
  simp only [true_and, Network.Answers]
  exact exists_comm

/-- **The failures of a plain bind**, and what the server did. -/
theorem plain_bind_fails_iff :
    (bind .plain timeout dn p net).1 = .error f ↔
      (∃ code text, net.Answers code text ∧ code ≠ 0 ∧ .ofResultCode code text = f) ∨
      (net.server = some .silent ∧ .timeout timeout = f) ∨
      (net.server = some .closes ∧ .connection s!"Bind request failed: {channelClosed}" = f) ∨
      (¬ net.Listens ∧ refused = f) := by
  by_cases hl : net.Listens
  · obtain ⟨reply, hs, hr⟩ := hl
    have heard : net.Listens := ⟨reply, hs, hr⟩
    rw [bind_plain hs hr]
    cases reply with
    | answers code matched text =>
      by_cases hc : code = 0
      · simp [bindResult, hs, heard, hc, Network.answers_iff hs]
      · simp [bindResult, hs, heard, hc, Network.answers_iff hs, and_assoc]
    | closes => simp [bindResult, hs, heard, Network.Answers]
    | silent => simp [bindResult, hs, heard, Network.Answers]
    | refuses => exact absurd rfl hr
  · rw [bind_of_not_listens hl]
    rcases Network.not_listens_iff.1 hl with hs | hs <;> simp [hs, hl, Network.Answers]

/-- A failure that stands was answered. -/
theorem fails_for_good_iff (hf : f.isTransient = false) :
    (bind .plain timeout dn p net).1 = .error f ↔
      ∃ code text, net.Answers code text ∧ code ≠ 0 ∧ .ofResultCode code text = f := by
  rw [plain_bind_fails_iff]
  refine or_iff_left ?_
  rintro (⟨-, rfl⟩ | ⟨-, rfl⟩ | ⟨-, rfl⟩) <;> cases hf

/-- A failure that may pass was not. -/
theorem fails_for_now_iff (hf : f.isTransient = true) :
    (bind .plain timeout dn p net).1 = .error f ↔
      (net.server = some .silent ∧ .timeout timeout = f) ∨
      (net.server = some .closes ∧ .connection s!"Bind request failed: {channelClosed}" = f) ∨
      (¬ net.Listens ∧ refused = f) := by
  rw [plain_bind_fails_iff]
  refine or_iff_right ?_
  rintro ⟨code, text, -, -, answered⟩
  exact Failure.ofResultCode_ne_of_isTransient hf code text answered

/-! ## Kinds of result -/

theorem rejects_credentials_iff :
    (bind .plain timeout dn p net).1 = .error .invalidCredentials ↔
      ∃ text, net.Answers 49 text := by
  rw [fails_for_good_iff rfl]
  simp [Failure.ofResultCode_eq_invalidCredentials_iff]

theorem rejects_account_iff :
    (bind .plain timeout dn p net).1 = .error .accountDisabled ↔ ∃ text, net.Answers 53 text := by
  rw [fails_for_good_iff rfl]
  simp [Failure.ofResultCode_eq_accountDisabled_iff]

theorem fails_with_code_iff :
    (bind .plain timeout dn p net).1 = .error (.bindFailed code text) ↔
      net.Answers code text ∧ code ≠ 0 ∧ code ≠ 49 ∧ code ≠ 53 := by
  rw [fails_for_good_iff rfl]
  simp only [Failure.ofResultCode_eq_bindFailed_iff]
  constructor
  · rintro ⟨_, _, answers, success, credentials, account, rfl, rfl⟩
    exact ⟨answers, success, credentials, account⟩
  · rintro ⟨answers, success, credentials, account⟩
    exact ⟨_, _, answers, success, credentials, account, rfl, rfl⟩

theorem times_out_iff :
    (bind .plain timeout dn p net).1 = .error (.timeout seconds) ↔
      net.server = some .silent ∧ seconds = timeout := by
  rw [fails_for_now_iff rfl]
  simp [refused, eq_comm]

theorem breaks_off_iff :
    (∃ reason, (bind .plain timeout dn p net).1 = .error (.connection reason)) ↔ net.Breaks := by
  constructor
  · rintro ⟨reason, hr⟩
    rcases (fails_for_now_iff rfl).1 hr with ⟨-, late⟩ | ⟨closed, -⟩ | ⟨unheard, -⟩
    · cases late
    · exact Or.inr closed
    · exact Or.inl unheard
  · rintro (unheard | closed)
    · exact ⟨_, (fails_for_now_iff rfl).2 (Or.inr (Or.inr ⟨unheard, rfl⟩))⟩
    · exact ⟨_, (fails_for_now_iff rfl).2 (Or.inr (Or.inl ⟨closed, rfl⟩))⟩

theorem fails_transiently_iff :
    (∃ f, (bind .plain timeout dn p net).1 = .error f ∧ f.isTransient = true) ↔
      ∀ code text, ¬ net.Answers code text := by
  constructor
  · rintro ⟨f, hf, transient⟩ code text answers
    rcases (fails_for_now_iff transient).1 hf with ⟨late, -⟩ | ⟨closed, -⟩ | ⟨unheard, -⟩
    · exact answers.ne_silent late
    · exact answers.not_breaks (Or.inr closed)
    · exact answers.not_breaks (Or.inl unheard)
  · intro unanswered
    rcases net.answers_or with ⟨code, text, answers⟩ | late | breaks
    · exact absurd answers (unanswered code text)
    · exact ⟨_, times_out_iff.2 ⟨late, rfl⟩, rfl⟩
    · obtain ⟨reason, broken⟩ := breaks_off_iff.2 breaks
      exact ⟨_, broken, rfl⟩

/-! ## Attempts -/

/-- An allowed attempt on a server that can be dialed is a bind in the session of the dialer. -/
theorem Dialer.guarded_of_dials {d : Dialer} {a : Attempt} (ha : a.verdict = .allow)
    (hd : d.Dials a.server) (net : Network) :
    ∃ p, a.password = some p ∧
      (Credential.guarded d.binder a net).result =
        (bind d.session d.timeout a.bindDn p net).1.map (fun _ => .bound) ∧
      (Credential.guarded d.binder a net).world = (bind d.session d.timeout a.bindDn p net).2 := by
  obtain ⟨c, rfl⟩ := Credential.exists_cleared_of_allow ha
  have dialed : d.binder c net = _ := binder_of_dials hd
  rw [Credential.guarded_toAttempt, dialed]
  exact ⟨c.password, rfl, rfl, rfl⟩

/-- An allowed attempt on a server that is dialed without encryption, under valid settings. -/
structure PlainAttempt (s : Ldap) (a : Attempt) : Prop where
  valid : s.validate = .ok ()
  noUpgrade : s.startTls = false
  noTls : (Dialer.ofSettings s).useTls = false
  allowed : a.verdict = .allow
  dials : (Dialer.ofSettings s).Dials a.server

/-- What a server receives of a plain bind, and what its answer comes to. -/
structure Classified (s : Ldap) (a : Attempt) (net : Network) (t : Traced Network Outcome) :
    Prop where
  /-- A server that takes the connection receives the bind. -/
  received : net.Listens →
    ∃ p, a.password = some p ∧ t.world = ⟨none, some (.simpleBind 3 a.bindDn p)⟩
  /-- Any other receives nothing. -/
  unheard : ¬ net.Listens → t.world = net
  bound_iff : t.result = .ok .bound ↔ ∃ text, net.Answers 0 text
  invalidCredentials_iff : t.result = .error .invalidCredentials ↔ ∃ text, net.Answers 49 text
  accountDisabled_iff : t.result = .error .accountDisabled ↔ ∃ text, net.Answers 53 text
  /-- All other codes are told as they are, with their text. -/
  bindFailed_iff : ∀ code text, t.result = .error (.bindFailed code text) ↔
    net.Answers code text ∧ code ≠ 0 ∧ code ≠ 49 ∧ code ≠ 53
  /-- The timeout is told as it was set. -/
  timeout_iff : ∀ seconds, t.result = .error (.timeout seconds) ↔
    net.server = some .silent ∧ seconds = s.timeoutSeconds
  connection_iff : (∃ reason, t.result = .error (.connection reason)) ↔ net.Breaks
  /-- The bind might succeed later just where the server did not answer. -/
  transient_iff : (∃ f, t.result = .error f ∧ f.isTransient = true) ↔
    ∀ code text, ¬ net.Answers code text
  /-- There is always a bind. -/
  not_skipped : ∀ v, t.result ≠ .ok (.skipped v)

variable {s : Ldap} {a : Attempt}

theorem map_bound_eq_error_iff {r : Except Failure Unit} :
    (r.map fun _ => Outcome.bound) = .error f ↔ r = .error f := by
  rcases r with g | u <;> simp [Except.map]

theorem map_bound_eq_ok_iff {r : Except Failure Unit} {outcome : Outcome} :
    (r.map fun _ => Outcome.bound) = .ok outcome ↔ r = .ok () ∧ outcome = .bound := by
  rcases r with g | u <;> simp [Except.map, eq_comm]

/-- **What an answer to a plain bind means.** -/
theorem classified_plain_bind (h : PlainAttempt s a) (net : Network) :
    Classified s a net (Credential.guarded (Dialer.ofSettings s).binder a net) := by
  obtain ⟨p, hp, result, world⟩ := Dialer.guarded_of_dials h.allowed h.dials net
  have plain : (Dialer.ofSettings s).session = .plain :=
    Dialer.session_eq_plain_iff.2 ⟨h.noTls, h.noUpgrade⟩
  rw [plain] at result world
  exact {
    received := fun ⟨reply, hs, hr⟩ => ⟨p, hp, by rw [world, bind_plain hs hr]; rfl⟩
    unheard := fun hl => by rw [world, bind_of_not_listens hl]
    bound_iff := by
      rw [result, map_bound_eq_ok_iff, plain_bind_succeeds_iff]
      exact and_iff_left rfl
    invalidCredentials_iff := by rw [result, map_bound_eq_error_iff, rejects_credentials_iff]
    accountDisabled_iff := by rw [result, map_bound_eq_error_iff, rejects_account_iff]
    bindFailed_iff := fun code text => by
      rw [result, map_bound_eq_error_iff, fails_with_code_iff]
    timeout_iff := fun seconds => by
      rw [result, map_bound_eq_error_iff, times_out_iff]
      rfl
    connection_iff := by
      simp only [result, map_bound_eq_error_iff]
      exact breaks_off_iff
    transient_iff := by
      simp only [result, map_bound_eq_error_iff]
      exact fails_transiently_iff
    not_skipped := fun v hv => by
      rw [result, map_bound_eq_ok_iff] at hv
      exact Outcome.noConfusion hv.2 }

/-- Settings for a plain connection to a server. -/
def onPlainPort : Ldap := { serverUrl := "ldap://h" }

/-- An attempt on that server, which knows another password. -/
def withWrongPassword : Attempt := ⟨"h:389", "cn=a", some "pw"⟩

theorem classified_plain_bind_of_wrong_password :
    PlainAttempt onPlainPort withWrongPassword ∧
    Classified onPlainPort withWrongPassword ⟨some (.answers 49 "" "no"), none⟩
      (Credential.guarded (Dialer.ofSettings onPlainPort).binder withWrongPassword
        ⟨some (.answers 49 "" "no"), none⟩) := by
  have attempt : PlainAttempt onPlainPort withWrongPassword :=
    ⟨rfl, rfl, rfl, rfl, dials_of_address rfl⟩
  exact ⟨attempt, classified_plain_bind attempt _⟩

end Gatekeeper.Directory
