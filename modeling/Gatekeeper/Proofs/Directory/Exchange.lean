import Gatekeeper.Directory.Dialer

/-!
# What the server receives and answers

A bind is accepted, or received at all, over a plain session only: `bind_eq_ok_iff` says when the
result is success, and `request_bind_iff` what the server then received. The dialer adds that the
URL it dials has to be one (`Dialer.result_binder_eq_ok_iff`, `Dialer.request_binder_iff`).
-/

namespace Gatekeeper.Directory

/-- A connection would be taken. -/
def Network.Listens (net : Network) : Prop := ∃ reply, net.server = some reply ∧ reply ≠ .refuses

/-- Somebody received a simple bind. -/
def Network.HasBind (net : Network) : Prop :=
  ∃ version name password, net.request = some (.simpleBind version name password)

variable {session : Session} {timeout : UInt64} {dn p : String} {net : Network}

/-! ## One exchange -/

theorem bind_of_not_listens (h : ¬ net.Listens) :
    bind session timeout dn p net = (.error refused, net) := by
  unfold bind
  split
  · rfl
  · rfl
  · rename_i reply hne hs
    exact absurd ⟨reply, hs, by rintro rfl; exact hne rfl⟩ h

theorem bind_plain {reply : Reply} (hs : net.server = some reply) (hr : reply ≠ .refuses) :
    bind .plain timeout dn p net =
      (bindResult timeout reply, ⟨none, some (.simpleBind protocolVersion dn p)⟩) := by
  cases reply <;> simp_all [bind]

theorem bind_upgraded {reply : Reply} (hs : net.server = some reply) (hr : reply ≠ .refuses) :
    bind .upgraded timeout dn p net =
      (upgradeResult timeout reply, ⟨none, some (.extended startTlsOid)⟩) := by
  cases reply <;> simp_all [bind]

theorem bind_encrypted {reply : Reply} (hs : net.server = some reply) (hr : reply ≠ .refuses) :
    bind .encrypted timeout dn p net = (.error notEncrypted, ⟨none, none⟩) := by
  cases reply <;> simp_all [bind]

/-- What the server receives over a session, when it takes the connection: the bind, the request for
an upgrade, or nothing before the handshake. -/
def Session.request (session : Session) (dn p : String) : Option Request :=
  match session with
  | plain => some (.simpleBind protocolVersion dn p)
  | upgraded => some (.extended startTlsOid)
  | encrypted => none

/-- A server that listens has its connection taken. -/
theorem network_bind_of_listens (h : net.Listens) :
    (bind session timeout dn p net).2 = ⟨none, session.request dn p⟩ := by
  obtain ⟨reply, hs, hr⟩ := h
  cases session with
  | plain => rw [bind_plain hs hr, Session.request]
  | upgraded => rw [bind_upgraded hs hr, Session.request]
  | encrypted => rw [bind_encrypted hs hr, Session.request]

theorem bindResult_eq_ok_iff {reply : Reply} :
    bindResult timeout reply = .ok () ↔ ∃ matched text, reply = .answers 0 matched text := by
  cases reply with
  | answers code matched text =>
    by_cases h : code = 0
    · subst h
      simp [bindResult]
    · simp [bindResult, h]
  | closes => simp [bindResult]
  | silent => simp [bindResult]
  | refuses => simp [bindResult]

theorem upgradeResult_ne_ok (reply : Reply) : upgradeResult timeout reply ≠ .ok () := by
  cases reply with
  | answers code matched text => by_cases h : code = 0 <;> simp [upgradeResult, h]
  | closes => simp [upgradeResult]
  | silent => simp [upgradeResult]
  | refuses => simp [upgradeResult]

/-- **A bind succeeds** exactly when it was plain and the server answered it with code zero. -/
theorem bind_eq_ok_iff :
    (bind session timeout dn p net).1 = .ok () ↔
      session = .plain ∧ ∃ matched text, net.server = some (.answers 0 matched text) := by
  by_cases hl : net.Listens
  · obtain ⟨reply, hs, hr⟩ := hl
    cases session with
    | plain =>
      rw [bind_plain hs hr, bindResult_eq_ok_iff, hs]
      simp
    | upgraded =>
      rw [bind_upgraded hs hr]
      simp [upgradeResult_ne_ok]
    | encrypted =>
      rw [bind_encrypted hs hr]
      simp
  · rw [bind_of_not_listens hl]
    refine iff_of_false (by simp) ?_
    rintro ⟨-, matched, text, hs⟩
    exact hl ⟨_, hs, by simp⟩

/-- **What the server receives**: the bind itself, over a plain session that it takes. -/
theorem request_bind_iff (fresh : net.request = none) {version : Nat} {name password : String} :
    (bind session timeout dn p net).2.request = some (.simpleBind version name password) ↔
      session = .plain ∧ net.Listens ∧
        version = protocolVersion ∧ name = dn ∧ password = p := by
  by_cases hl : net.Listens
  · have hl' := hl
    obtain ⟨reply, hs, hr⟩ := hl
    cases session with
    | plain =>
      rw [bind_plain hs hr]
      simp [hl', eq_comm]
    | upgraded =>
      rw [bind_upgraded hs hr]
      simp
    | encrypted =>
      rw [bind_encrypted hs hr]
      simp
  · rw [bind_of_not_listens hl]
    simp [fresh, hl]

/-! ## The dialer -/

namespace Dialer

variable {d : Dialer} {c : Credential.Cleared}

/-- The URL for an address can be dialed. -/
def Dials (d : Dialer) (address : String) : Prop := ∃ u, Url.parse (d.url address).toList = .ok u

theorem session_eq_plain_iff : d.session = .plain ↔ d.useTls = false ∧ d.startTls = false := by
  rcases d with ⟨_ | _, _ | _, timeout, configured⟩ <;> simp [session]

theorem session_eq_upgraded_iff :
    d.session = .upgraded ↔ d.useTls = false ∧ d.startTls = true := by
  rcases d with ⟨_ | _, _ | _, timeout, configured⟩ <;> simp [session]

/-- The events before the outcome: a warning on another server, and the URL that is dialed. -/
def dialEvents (d : Dialer) (c : Credential.Cleared) : List Log.Event :=
  (if d.isConfigured c.server then [] else [otherServerEvent c]) ++
    [connectingEvent (d.url c.server)]

theorem binder_of_dials (h : d.Dials c.server) :
    d.binder c net =
      ⟨(bind d.session d.timeout c.bindDn c.password net).1, d.dialEvents c,
        (bind d.session d.timeout c.bindDn c.password net).2⟩ := by
  obtain ⟨u, hu⟩ := h
  simp only [binder, hu, dialEvents]

theorem binder_of_not_dials (h : ¬ d.Dials c.server) (net : Network) :
    ∃ fault, Url.parse (d.url c.server).toList = .error fault ∧
      d.binder c net =
        ⟨.error (.connection s!"url parse error: {fault.message}"), d.dialEvents c, net⟩ := by
  rcases hu : Url.parse (d.url c.server).toList with fault | u
  · exact ⟨fault, rfl, by simp only [binder, hu, dialEvents]⟩
  · exact absurd ⟨u, hu⟩ h

theorem result_binder_eq_ok_iff :
    (d.binder c net).result = .ok () ↔ d.Dials c.server ∧ d.session = .plain ∧
      ∃ matched text, net.server = some (.answers 0 matched text) := by
  by_cases h : d.Dials c.server
  · rw [binder_of_dials h, bind_eq_ok_iff]
    simp [h]
  · obtain ⟨fault, -, hb⟩ := binder_of_not_dials h net
    rw [hb]
    simp [h]

theorem request_binder_iff (fresh : net.request = none) {version : Nat}
    {name password : String} :
    (d.binder c net).world.request = some (.simpleBind version name password) ↔
      d.Dials c.server ∧ d.session = .plain ∧ net.Listens ∧
        version = protocolVersion ∧ name = c.bindDn ∧ password = c.password := by
  by_cases h : d.Dials c.server
  · rw [binder_of_dials h, request_bind_iff fresh]
    simp [h]
  · obtain ⟨fault, -, hb⟩ := binder_of_not_dials h net
    rw [hb]
    simp [fresh, h]

end Dialer

end Gatekeeper.Directory
