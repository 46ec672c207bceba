import Gatekeeper.Proofs.Credential.GuardedRun

/-!
# What the guard tells

Of each attempt the guard tells one event of its own, behind all that the binder told. Level,
message and fields of that event follow from the result, and each of the four kinds of result can be
told from it (`Tells`): skipped, bound, failed in a way that may pass, and failed for good. Of a
skipped attempt there is no other event, and this one is the same for every name and every password
with that verdict (`exists_told`).
-/

namespace Gatekeeper.Credential

open Log (Event)

variable {σ : Type} {binder : Binder σ} {a : Attempt}

/-- The event tells the result of an attempt: each kind of result has an event, and no other result
has that event. -/
structure Tells (a : Attempt) (result : Except Failure Outcome) (e : Event) : Prop where
  skipped_iff : ∀ v, result = .ok (.skipped v) ↔
    e = ⟨.warn, guardTarget, s!"Skipping LDAP bind: {v.description}",
      [("server", a.server), ("result", v.name)]⟩
  bound_iff : result = .ok .bound ↔
    e = ⟨.info, guardTarget, "LDAP bind succeeded", [("server", a.server), ("bind_dn", a.bindDn)]⟩
  /-- Failures that may pass are told without the name. -/
  unavailable_iff : ∀ text,
    (∃ f, result = .error f ∧ f.isTransient = true ∧ f.message = text) ↔
      e = ⟨.warn, guardTarget, s!"LDAP server unavailable: {text}", [("server", a.server)]⟩
  rejected_iff : ∀ text,
    (∃ f, result = .error f ∧ f.isTransient = false ∧ f.message = text) ↔
      e = ⟨.error, guardTarget, s!"LDAP bind rejected: {text}",
        [("server", a.server), ("bind_dn", a.bindDn)]⟩

/-! ## The event of each result -/

theorem tells_skipped (a : Attempt) (v : Verdict) :
    Tells a (.ok (.skipped v)) (skippedEvent a.server v) where
  skipped_iff v' := by
    constructor
    · rintro ⟨⟩
      rfl
    · intro h
      have name : v.name = v'.name := by simpa [skippedEvent] using congrArg Event.fields h
      rw [Verdict.eq_of_name_eq name]
  bound_iff := by simp [skippedEvent]
  unavailable_iff text := by simp [skippedEvent]
  rejected_iff text := by simp [skippedEvent]

theorem tells_bound (c : Cleared) : Tells c.toAttempt (.ok .bound) (boundEvent c) where
  skipped_iff v := by simp [boundEvent]
  bound_iff := iff_of_true rfl rfl
  unavailable_iff text := by simp [boundEvent]
  rejected_iff text := by simp [boundEvent]

theorem tells_failed (c : Cleared) (f : Failure) :
    Tells c.toAttempt (.error f) (failedEvent c f) := by
  rcases ht : f.isTransient with - | -
  · have event : failedEvent c f = ⟨.error, guardTarget, s!"LDAP bind rejected: {f.message}",
        [("server", c.server), ("bind_dn", c.bindDn)]⟩ := if_neg (by simp [ht])
    rw [event]
    exact {
      skipped_iff := fun v => by simp
      bound_iff := by simp
      unavailable_iff := fun text => by simp [ht]
      rejected_iff := fun text => by simp [ht, Cleared.toAttempt, toString] }
  · have event : failedEvent c f = ⟨.warn, guardTarget, s!"LDAP server unavailable: {f.message}",
        [("server", c.server)]⟩ := if_pos ht
    rw [event]
    exact {
      skipped_iff := fun v => by simp
      bound_iff := by simp
      unavailable_iff := fun text => by simp [ht, Cleared.toAttempt, toString]
      rejected_iff := fun text => by simp [ht] }

theorem tells_closing (c : Cleared) (r : Except Failure Unit) :
    Tells c.toAttempt (r.map fun _ => .bound) (closingEvent c r) := by
  rcases r with f | u
  · exact tells_failed c f
  · exact tells_bound c

/-- How the message of such an event begins. -/
theorem Tells.head_message {result : Except Failure Outcome} {e : Event} (h : Tells a result e) :
    e.message.toList.head? = some 'S' ∨ e.message.toList.head? = some 'L' := by
  rcases result with f | outcome
  · refine Or.inr ?_
    rcases ht : f.isTransient with - | -
    · rw [(h.rejected_iff f.message).1 ⟨f, rfl, ht, rfl⟩, String.toList_append]
      rfl
    · rw [(h.unavailable_iff f.message).1 ⟨f, rfl, ht, rfl⟩, String.toList_append]
      rfl
  · cases outcome with
    | bound =>
      have message : "LDAP bind succeeded".toList.head? = some 'L' := by decide
      rw [h.bound_iff.1 rfl]
      exact Or.inr message
    | skipped v =>
      rw [(h.skipped_iff v).1 rfl, String.toList_append]
      exact Or.inl rfl

/-! ## The events of a bind -/

/-- The events of a binder on an attempt. It is not called with one that is rejected. -/
def binderEvents (binder : Binder σ) (a : Attempt) (w : σ) : List Event :=
  match a.check with
  | .ok c => (binder c w).events
  | .error _ => []

/-- What a guarded bind tells: the events of the binder, and one of the guard behind them. -/
structure Told (binder : Binder σ) (a : Attempt) (w : σ) (e : Event) : Prop where
  events : (guarded binder a w).events = binderEvents binder a w ++ [e]
  tells : Tells a (guarded binder a w).result e
  /-- Of a skipped attempt nothing else is told. -/
  alone : ∀ v, (guarded binder a w).result = .ok (.skipped v) → (guarded binder a w).events = [e]
  /-- Name and password of a skipped attempt are not told. -/
  blind : ∀ v, (guarded binder a w).result = .ok (.skipped v) →
    ∀ (b : Attempt) w', b.server = a.server → b.verdict = a.verdict →
      (guarded binder b w').events = [e]

theorem told_of_rejected (h : a.verdict ≠ .allow) (w : σ) :
    Told binder a w (skippedEvent a.server a.verdict) := by
  have skipped (b : Attempt) (hb : b.verdict ≠ .allow) (w : σ) :
      guarded binder b w = ⟨.ok (.skipped b.verdict), [skippedEvent b.server b.verdict], w⟩ :=
    guarded_of_rejected hb w
  have uncalled : binderEvents binder a w = [] := by rw [binderEvents, check_of_rejected h]
  exact {
    events := by rw [skipped a h, uncalled, List.nil_append]
    tells := by
      rw [skipped a h]
      exact tells_skipped a a.verdict
    alone := fun _ _ => by rw [skipped a h]
    blind := fun _ _ b w' server verdict => by
      rw [skipped b (by rwa [verdict]), server, verdict] }

theorem told_toAttempt (c : Cleared) (w : σ) :
    Told binder c.toAttempt w (closingEvent c (binder c w).result) := by
  have called : binderEvents binder c.toAttempt w = (binder c w).events := by
    rw [binderEvents, check_toAttempt]
  have unskipped (v : Verdict) : (guarded binder c.toAttempt w).result ≠ .ok (.skipped v) := by
    rw [guarded_toAttempt]
    rcases (binder c w).result with f | u <;> simp [Except.map]
  exact {
    events := by rw [guarded_toAttempt, called]
    tells := by
      rw [guarded_toAttempt]
      exact tells_closing c _
    alone := fun v hv => absurd hv (unskipped v)
    blind := fun v hv => absurd hv (unskipped v) }

/-- **Each guarded bind tells its result.** -/
theorem exists_told (binder : Binder σ) (a : Attempt) (w : σ) : ∃ e, Told binder a w e := by
  by_cases h : a.verdict = .allow
  · obtain ⟨c, rfl⟩ := exists_cleared_of_allow h
    exact ⟨_, told_toAttempt c w⟩
  · exact ⟨_, told_of_rejected h w⟩

end Gatekeeper.Credential
