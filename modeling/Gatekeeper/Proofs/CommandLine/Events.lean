import Gatekeeper.Proofs.CommandLine.Style
import Gatekeeper.Proofs.Credential.Events
import Gatekeeper.Proofs.Directory.Address

/-!
# What a bind tells

The dialer tells of every allowed attempt the URL that it dials, and before that it warns of an
attempt on another server than the configured one. The guard adds what came of it, so the events of
a dialed attempt are two or three (`dialingTold_of_told`).

A run of `bind` dials the address of its own settings. It tells nothing before all is ready
(`events_session_of_not_ready`); then it tells that a bind is about to be made, and the events of
that bind (`events_session_of_ready`). The warning is never among them (`ReadyTold.ne_foreign`).
`events_tell_results` puts this together.
-/

namespace Gatekeeper.CommandLine

open Credential (Attempt Told)
open Directory (Dialer Network)
open Log (Event)
open Settings (Ldap)

variable {w : Surroundings} {args : List String} {a : Arguments} {c : Credentials} {s : Settings}
  {p : Option String} {address : String}

/-! ## Messages -/

/-- The words of the warning on an attempt that goes to another server. -/
def foreignWords : String :=
  "Attempt targets a server other than the configured one; using the configured scheme"

/-- The warning begins with a letter of its own. -/
theorem ne_foreignWords {message : String} (h : message.toList.head? ≠ some 'A') :
    message ≠ foreignWords := by
  have first : foreignWords.toList.head? = some 'A' := by decide
  rintro rfl
  exact h first

theorem guardedBindEvent_ne_foreign (address dn : String) :
    (guardedBindEvent address dn).message ≠ foreignWords := by
  have first : (guardedBindEvent address dn).message.toList.head? = some 'G' := by
    simp only [guardedBindEvent, String.toList_append]
    rfl
  exact ne_foreignWords (by rw [first]; decide)

theorem connectingEvent_ne_foreign (url : String) :
    (Dialer.connectingEvent url).message ≠ foreignWords := by
  have first : (Dialer.connectingEvent url).message.toList.head? = some 'C' := by
    simp only [Dialer.connectingEvent, String.toList_append]
    rfl
  exact ne_foreignWords (by rw [first]; decide)

theorem ne_foreign_of_tells {a : Attempt} {result : Except Failure Credential.Outcome} {e : Event}
    (h : Credential.Tells a result e) : e.message ≠ foreignWords := by
  rcases h.head_message with first | first
  · exact ne_foreignWords (by rw [first]; decide)
  · exact ne_foreignWords (by rw [first]; decide)

/-! ## Dialed attempts -/

/-- What is told of an allowed attempt that ends with an event. -/
structure DialingTold (s : Ldap) (a : Attempt) (net : Network) (e : Event) : Prop where
  configured : s.address = .ok a.server →
    (Credential.guarded (Dialer.ofSettings s).binder a net).events =
      [⟨.debug, Credential.guardTarget,
        s!"Connecting to LDAP server: {(Dialer.ofSettings s).url a.server}", []⟩, e]
  foreign : s.address ≠ .ok a.server →
    (Credential.guarded (Dialer.ofSettings s).binder a net).events =
      [⟨.warn, Credential.guardTarget, foreignWords, [("server", a.server)]⟩,
        ⟨.debug, Credential.guardTarget,
          s!"Connecting to LDAP server: {(Dialer.ofSettings s).url a.server}", []⟩, e]
  /-- So the warning is given just where the settings do not name that server. -/
  warned_iff : (∃ e ∈ (Credential.guarded (Dialer.ofSettings s).binder a net).events,
    e.message = foreignWords) ↔ s.address ≠ .ok a.server

theorem dialingTold_of_told {a : Attempt} (h : a.verdict = .allow) {s : Ldap} {net : Network}
    {e : Event} (told : Told (Dialer.ofSettings s).binder a net e) : DialingTold s a net e := by
  obtain ⟨c, rfl⟩ := Credential.exists_cleared_of_allow h
  have events : (Credential.guarded (Dialer.ofSettings s).binder c.toAttempt net).events =
      (Dialer.ofSettings s).dialEvents c ++ [e] := by
    rw [told.events, Credential.binderEvents, Credential.check_toAttempt, ← Dialer.events_binder]
  have configured (same : s.address = .ok c.server) :
      (Dialer.ofSettings s).dialEvents c =
        [Dialer.connectingEvent ((Dialer.ofSettings s).url c.server)] := by
    rw [Dialer.dialEvents, if_pos (Dialer.isConfigured_iff.2 same), List.nil_append]
  have foreign (other : s.address ≠ .ok c.server) :
      (Dialer.ofSettings s).dialEvents c = [Dialer.otherServerEvent c,
        Dialer.connectingEvent ((Dialer.ofSettings s).url c.server)] := by
    rw [Dialer.dialEvents, if_neg (fun same => other (Dialer.isConfigured_iff.1 same))]
    rfl
  refine ⟨fun same => ?_, fun other => ?_, ?_, fun other => ?_⟩
  · rw [events, configured same]
    rfl
  · rw [events, foreign other]
    rfl
  · rintro ⟨e', he, warned⟩ same
    rw [events, configured same] at he
    simp only [List.cons_append, List.nil_append, List.mem_cons, List.not_mem_nil, or_false] at he
    rcases he with rfl | rfl
    · exact connectingEvent_ne_foreign _ warned
    · exact ne_foreign_of_tells told.tells warned
  · rw [events, foreign other]
    exact ⟨_, List.mem_cons_self, rfl⟩

/-! ## Runs of `bind` -/

theorem events_session_of_not_ready (ht : a.task = .bind c) (hr : ∀ s p, ¬ Ready w a c s p) :
    (a.session w).events = [] := by
  rcases hs : a.settings w.environment w.file with f | s
  · simp only [Arguments.session, hs]
  · rcases hp : c.password? w.input with f | p
    · simp only [Arguments.session, hs, ht, perform, withPassword, hp, Session.failed]
    · rcases hv : s.ldap.validate with f | u
      · simp only [Arguments.session, hs, ht, perform, withPassword, hp, performBind, hv,
          Session.failed]
      · exact absurd ⟨hs, hp, hv⟩ (hr s p)

theorem events_session_of_ready (ht : a.task = .bind c) (hr : Ready w a c s p)
    (ha : s.ldap.address = .ok address) :
    (a.session w).events = guardedBindEvent address (c.name s) ::
      (Credential.guarded (Dialer.ofSettings s.ldap).binder ⟨address, c.name s, p⟩
        w.network).events := by
  simp only [Arguments.session, hr.settings, ht, perform, withPassword, hr.password, performBind,
    hr.valid, ha, Credentials.name]

/-- What a run tells that gets ready for a bind: what is about to be done, where it is dialed when
the attempt is allowed, and what came of it. -/
structure ReadyTold (w : Surroundings) (a : Arguments) (c : Credentials) (s : Settings)
    (p : Option String) (address : String) (e : Event) : Prop where
  inEffect : s.ldap.address = .ok address
  told : Told (Dialer.ofSettings s.ldap).binder ⟨address, c.name s, p⟩ w.network e
  rejected : c.verdict s p ≠ .allow →
    (a.session w).events = [guardedBindEvent address (c.name s), e]
  allowed : c.verdict s p = .allow →
    (a.session w).events = [guardedBindEvent address (c.name s),
      Dialer.connectingEvent ((Dialer.ofSettings s.ldap).url address), e]

theorem exists_readyTold (ht : a.task = .bind c) (hr : Ready w a c s p) :
    ∃ address e, ReadyTold w a c s p address e := by
  obtain ⟨-, address, -, ha, -⟩ := Settings.Ldap.exists_address_of_validate hr.valid
  obtain ⟨e, told⟩ := Credential.exists_told (Dialer.ofSettings s.ldap).binder
    ⟨address, c.name s, p⟩ w.network
  have events := events_session_of_ready ht hr ha
  refine ⟨address, e, ha, told, fun rejected => ?_, fun allowed => ?_⟩
  · rw [← verdict_eq c s p address] at rejected
    have skipped : (Credential.guarded (Dialer.ofSettings s.ldap).binder ⟨address, c.name s, p⟩
        w.network).result = .ok (.skipped _) :=
      congrArg Credential.Traced.result (Credential.guarded_of_rejected rejected w.network)
    rw [events, told.alone _ skipped]
  · rw [← verdict_eq c s p address] at allowed
    rw [events, (dialingTold_of_told allowed told).configured ha]
    rfl

theorem ReadyTold.ne_foreign {outcome : Event} (h : ReadyTold w a c s p address outcome) {e : Event}
    (he : e ∈ (a.session w).events) : e.message ≠ foreignWords := by
  by_cases hv : c.verdict s p = .allow
  · rw [h.allowed hv] at he
    simp only [List.mem_cons, List.not_mem_nil, or_false] at he
    rcases he with rfl | rfl | rfl
    · exact guardedBindEvent_ne_foreign _ _
    · exact connectingEvent_ne_foreign _
    · exact ne_foreign_of_tells h.told.tells
  · rw [h.rejected hv] at he
    simp only [List.mem_cons, List.not_mem_nil, or_false] at he
    rcases he with rfl | rfl
    · exact guardedBindEvent_ne_foreign _ _
    · exact ne_foreign_of_tells h.told.tells

/-- What a run of `bind` tells. -/
structure BindTold (w : Surroundings) (args : List String) (a : Arguments) (c : Credentials) :
    Prop where
  /-- The log is made of the events of the session. -/
  shown : (run w args).diagnostics = a.log w ++ (a.session w).report
  unready : (∀ s p, ¬ Ready w a c s p) → (a.session w).events = []
  ready : ∀ s p, Ready w a c s p → ∃ address e, ReadyTold w a c s p address e
  /-- The server is never another one than configured. -/
  noForeign : ∀ e ∈ (a.session w).events, e.message ≠ foreignWords

theorem bindTold_of_read (h : Arguments.read w.environment args = .ok a) (ht : a.task = .bind c) :
    BindTold w args a c where
  shown := by rw [run_eq_shown h]
  unready := events_session_of_not_ready ht
  ready s p := exists_readyTold ht
  noForeign e he := by
    by_cases hr : ∃ s p, Ready w a c s p
    · obtain ⟨s, p, hr⟩ := hr
      obtain ⟨address, outcome, told⟩ := exists_readyTold ht hr
      exact told.ne_foreign he
    · have none : (a.session w).events = [] :=
        events_session_of_not_ready ht fun s p hsp => hr ⟨s, p, hsp⟩
      rw [none] at he
      cases he

/-- **The events tell what happened**: of each guarded bind one event tells the result; of each
dialed attempt those before it tell the URL, and whether the server is another one than configured;
and of a run of `bind` no event says that it is. -/
theorem events_tell_results :
    (∀ (σ : Type) (binder : Credential.Binder σ) a w, ∃ e, Told binder a w e) ∧
    (∀ (s : Ldap) (a : Attempt) net, a.verdict = .allow →
      ∃ e, Told (Dialer.ofSettings s).binder a net e ∧ DialingTold s a net e) ∧
    ∀ w args a c, Arguments.read w.environment args = .ok a → a.task = .bind c →
      BindTold w args a c := by
  refine ⟨fun σ => Credential.exists_told, fun s a net ha => ?_, fun w args a c => bindTold_of_read⟩
  obtain ⟨e, told⟩ := Credential.exists_told (Dialer.ofSettings s).binder a net
  exact ⟨e, told, dialingTold_of_told ha told⟩

theorem events_tell_results_of_bare :
    (∃ e, Told (Dialer.ofSettings { serverUrl := "" }).binder ⟨"h:389", "cn=a", some "pw"⟩
        ⟨none, none⟩ e ∧
      DialingTold { serverUrl := "" } ⟨"h:389", "cn=a", some "pw"⟩ ⟨none, none⟩ e) ∧
    BindTold (.bare (.answers 49 "" "no")) (bindLine "ldap://h") (bindArguments "ldap://h")
      ⟨some "pw", false, some "cn=a"⟩ :=
  ⟨events_tell_results.2.1 { serverUrl := "" } ⟨"h:389", "cn=a", some "pw"⟩ ⟨none, none⟩ rfl,
    events_tell_results.2.2 _ _ _ _ rfl rfl⟩

end Gatekeeper.CommandLine
