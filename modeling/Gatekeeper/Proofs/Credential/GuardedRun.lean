import Gatekeeper.Credential.Guard
import Gatekeeper.Proofs.Credential.Judgement

/-!
# Runs of the guard

One guarded bind is one of two things: the attempt is rejected and nothing happens but an event
(`guarded_of_rejected`), or it was cleared and the binder's answer is passed on with one event
behind the binder's own (`guarded_toAttempt`).

A run binds attempts one after the other, and its every step is the guarded bind of that attempt in
the world that the steps before it left (`getElem?_guardedAll`). Over a scripted binder the world is
the list of calls, and it is known from the attempts alone (`attempts_worldAfter`): the calls are
the allowed attempts, in order and unchanged. So the call number of an attempt is the number of
allowed attempts before it, and that number is all that a step learns of the past
(`told_guardedAll_eq`).
-/

namespace Gatekeeper.Credential

variable {σ : Type} {binder : Binder σ}

/-- What a step tells: its result and its events. -/
def Traced.told {α : Type} (t : Traced σ α) : Except Failure α × List Log.Event :=
  (t.result, t.events)

/-! ## One bind -/

/-- The event that the guard tells behind those of the binder. -/
def closingEvent (c : Cleared) : Except Failure Unit → Log.Event
  | .ok () => boundEvent c
  | .error f => failedEvent c f

theorem guarded_of_rejected {a : Attempt} (h : a.verdict ≠ .allow) (w : σ) :
    guarded binder a w =
      ⟨.ok (.skipped a.verdict), [skippedEvent a.server a.verdict], w⟩ := by
  rw [guarded, check_of_rejected h]

theorem guarded_toAttempt (binder : Binder σ) (c : Cleared) (w : σ) :
    guarded binder c.toAttempt w =
      ⟨(binder c w).result.map fun _ => .bound,
        (binder c w).events ++ [closingEvent c (binder c w).result], (binder c w).world⟩ := by
  rw [guarded, check_toAttempt]
  rcases h : (binder c w).result with f | u
  · simp only [h, Except.map, closingEvent]
  · simp only [h, Except.map, closingEvent]

/-! ## Runs -/

/-- The world after some guarded binds. -/
def worldAfter (binder : Binder σ) (as : List Attempt) (w : σ) : σ :=
  as.foldl (fun w a => (guarded binder a w).world) w

theorem guardedAll_append (as bs : List Attempt) (w : σ) :
    guardedAll binder (as ++ bs) w =
      guardedAll binder as w ++ guardedAll binder bs (worldAfter binder as w) := by
  induction as generalizing w with
  | nil => rfl
  | cons a as ih =>
    simp only [List.cons_append, guardedAll, worldAfter, List.foldl_cons, ih]

theorem length_guardedAll (as : List Attempt) (w : σ) :
    (guardedAll binder as w).length = as.length := by
  induction as generalizing w with
  | nil => rfl
  | cons a as ih => simp only [guardedAll, List.length_cons, ih]

/-- A step of a run is the guarded bind of its attempt, in the world that the steps before left. -/
theorem getElem?_guardedAll (before : List Attempt) (a : Attempt) (after : List Attempt) (w : σ) :
    (guardedAll binder (before ++ a :: after) w)[before.length]? =
      some (guarded binder a (worldAfter binder before w)) := by
  rw [guardedAll_append, List.getElem?_append_right (Nat.le_of_eq (length_guardedAll before w)),
    length_guardedAll, Nat.sub_self, guardedAll, List.getElem?_cons_zero]

theorem exists_of_mem_guardedAll {as : List Attempt} {w : σ} {t : Traced σ Outcome}
    (h : t ∈ guardedAll binder as w) :
    ∃ before a after, as = before ++ a :: after ∧
      t = guarded binder a (worldAfter binder before w) := by
  induction as generalizing w with
  | nil => cases h
  | cons a as ih =>
    rcases List.mem_cons.1 h with rfl | h
    · exact ⟨[], a, as, rfl, rfl⟩
    · obtain ⟨before, b, after, rfl, rfl⟩ := ih h
      exact ⟨a :: before, b, after, rfl, rfl⟩

/-! ## Runs over a scripted binder -/

variable {script script' : Nat → Except Failure Unit}

/-- The allowed attempts among some. -/
def allowed (as : List Attempt) : List Attempt := as.filter fun a => a.verdict = .allow

/-- One bind adds the attempt to the calls when it is allowed. -/
theorem attempts_guarded (script : Nat → Except Failure Unit) (a : Attempt) (calls : Calls) :
    (guarded (scripted script) a calls).world.map Cleared.toAttempt =
      calls.map Cleared.toAttempt ++ allowed [a] := by
  by_cases h : a.verdict = .allow
  · obtain ⟨c, rfl⟩ := exists_cleared_of_allow h
    rw [guarded_toAttempt]
    simp [scripted, allowed]
  · rw [guarded_of_rejected h]
    simp [allowed, h]

/-- A call for an attempt is made with its password, and the password is visible. -/
theorem call_of_guarded (script : Nat → Except Failure Unit) (a : Attempt) (calls : Calls) :
    (guarded (scripted script) a calls).world = calls ∨
      ∃ c : Cleared, (guarded (scripted script) a calls).world = calls ++ [c] ∧
        c.toAttempt = a ∧ HasVisible c.password := by
  by_cases h : a.verdict = .allow
  · obtain ⟨p, hp, sound, -⟩ := Attempt.verdict_eq_allow_iff.1 h
    obtain ⟨c, rfl⟩ := exists_cleared_of_allow h
    obtain rfl : c.password = p := Option.some.inj hp
    refine Or.inr ⟨c, ?_, rfl, sound.visible⟩
    rw [guarded_toAttempt]
    rfl
  · rw [guarded_of_rejected h]
    exact Or.inl rfl

/-- **The calls of a run** are the allowed attempts, in order and unchanged. -/
theorem attempts_worldAfter (script : Nat → Except Failure Unit) (as : List Attempt)
    (calls : Calls) :
    (worldAfter (scripted script) as calls).map Cleared.toAttempt =
      calls.map Cleared.toAttempt ++ allowed as := by
  induction as generalizing calls with
  | nil => simp [worldAfter, allowed]
  | cons a as ih =>
    rw [worldAfter, List.foldl_cons, ← worldAfter, ih, attempts_guarded, List.append_assoc, allowed,
      allowed, allowed, ← List.filter_append, List.singleton_append]

theorem length_worldAfter (as : List Attempt) (calls : Calls) :
    (worldAfter (scripted script) as calls).length = calls.length + (allowed as).length := by
  simpa using congrArg List.length (attempts_worldAfter script as calls)

theorem result_guarded_of_allow {a : Attempt} (h : a.verdict = .allow) (calls : Calls) :
    (guarded (scripted script) a calls).result =
      (script calls.length).map fun _ => .bound := by
  obtain ⟨c, rfl⟩ := exists_cleared_of_allow h
  rw [guarded_toAttempt]
  rfl

/-- What one bind tells depends on the past by the answer to the next call alone. -/
theorem told_guarded_eq {calls calls' : Calls} (a : Attempt)
    (h : script calls.length = script' calls'.length) :
    (guarded (scripted script) a calls).told = (guarded (scripted script') a calls').told := by
  by_cases ha : a.verdict = .allow
  · obtain ⟨c, rfl⟩ := exists_cleared_of_allow ha
    simp only [guarded_toAttempt, Traced.told, scripted, h]
  · simp only [guarded_of_rejected ha, Traced.told]

theorem length_guarded (a : Attempt) (calls : Calls) :
    (guarded (scripted script) a calls).world.length =
      calls.length + (allowed [a]).length := by
  simpa using congrArg List.length (attempts_guarded script a calls)

/-- What a run tells depends on the past by the answers to its own calls alone. -/
theorem told_guardedAll_eq (as : List Attempt) {calls calls' : Calls}
    (h : ∀ n, script (calls.length + n) = script' (calls'.length + n)) :
    (guardedAll (scripted script) as calls).map Traced.told =
      (guardedAll (scripted script') as calls').map Traced.told := by
  induction as generalizing calls calls' with
  | nil => rfl
  | cons a as ih =>
    -- The calls after the first step are numbered behind the one that it may have made.
    have later : ∀ n, script ((guarded (scripted script) a calls).world.length + n) =
        script' ((guarded (scripted script') a calls').world.length + n) := by
      intro n
      rw [length_guarded, length_guarded, Nat.add_assoc, Nat.add_assoc]
      exact h _
    rw [guardedAll, guardedAll, List.map_cons, List.map_cons, told_guarded_eq a (h 0), ih later]

/-! ## Reached states -/

/-- The lists of calls that runs over a scripted binder lead to. -/
inductive Reached (script : Nat → Except Failure Unit) : Calls → Prop
  | start : Reached script []
  | bind (a : Attempt) {calls : Calls} (h : Reached script calls) :
    Reached script (guarded (scripted script) a calls).world

theorem Reached.worldAfter {calls : Calls} (h : Reached script calls) (as : List Attempt) :
    Reached script (worldAfter (scripted script) as calls) := by
  induction as generalizing calls with
  | nil => exact h
  | cons a as ih => exact ih (h.bind a)

/-- Every call that was ever recorded is fit for the server. -/
theorem Reached.sound {calls : Calls} (h : Reached script calls) :
    ∀ a ∈ calls.map Cleared.toAttempt,
      ∃ p, a.password = some p ∧ PasswordSound p ∧ NameSound a.bindDn := by
  induction h with
  | start => simp
  | bind b _ ih =>
    intro a ha
    rw [attempts_guarded, List.mem_append] at ha
    rcases ha with ha | ha
    · exact ih a ha
    · obtain ⟨-, hv⟩ := List.mem_filter.1 ha
      exact Attempt.verdict_eq_allow_iff.1 (by simpa using hv)

/-! ## The contract -/

/-- The calls of a run from the start. -/
def callsOf (script : Nat → Except Failure Unit) (as : List Attempt) : Calls :=
  worldAfter (scripted script) as []

/-- **The contract of the guard** over a whole run. The calls are the allowed attempts. Each attempt
behaves as its verdict says, an allowed one as its own call was answered, whatever came before: two
pasts that leave the same answers to come make no difference. Every recorded call of every reached
state is fit for the server. -/
theorem guarded_run_contract (script : Nat → Except Failure Unit) (as : List Attempt) :
    (callsOf script as).map Cleared.toAttempt = allowed as ∧
    (∀ before a after, as = before ++ a :: after →
      ∃ t, (guardedAll (scripted script) as [])[before.length]? = some t ∧
        t.world.map Cleared.toAttempt = allowed before ++ allowed [a] ∧
        (a.verdict ≠ .allow →
          t.result = .ok (.skipped a.verdict) ∧ t.world = callsOf script before) ∧
        (a.verdict = .allow →
          t.result = (script (allowed before).length).map fun _ => .bound)) ∧
    (∀ script' before before',
      (∀ n, script ((allowed before).length + n) = script' ((allowed before').length + n)) →
      (guardedAll (scripted script) as (callsOf script before)).map Traced.told =
        (guardedAll (scripted script') as (callsOf script' before')).map Traced.told) ∧
    (∀ calls, Reached script calls → ∀ c ∈ calls, PasswordSound c.password ∧ NameSound c.bindDn) ∧
    ∀ t ∈ guardedAll (scripted script) as [], Reached script t.world := by
  refine ⟨attempts_worldAfter script as [], ?_, ?_, ?_, ?_⟩
  · rintro before a after rfl
    refine ⟨_, getElem?_guardedAll before a after [], ?_, fun h => ?_, fun h => ?_⟩
    · rw [attempts_guarded, attempts_worldAfter]
      rfl
    · rw [guarded_of_rejected h]
      exact ⟨rfl, rfl⟩
    · rw [result_guarded_of_allow h, length_worldAfter, List.length_nil, Nat.zero_add]
  · intro script' before before' h
    refine told_guardedAll_eq as fun n => ?_
    simpa only [callsOf, length_worldAfter, List.length_nil, Nat.zero_add] using h n
  · intro calls h c hc
    obtain ⟨p, hp, hs, hn⟩ := h.sound _ (List.mem_map_of_mem hc)
    obtain rfl : c.password = p := Option.some.inj hp
    exact ⟨hs, hn⟩
  · intro t ht
    obtain ⟨before, a, -, -, rfl⟩ := exists_of_mem_guardedAll ht
    exact (Reached.start.worldAfter _).bind _

end Gatekeeper.Credential
