import Gatekeeper.Proofs.CommandLine.Agreement

/-!
# What runs answer

A run whose arguments were understood ends with an answer or fails, and the status tells which
(`run_cases`, `ends_of_status_ne`). A run that fails leaves its output empty.

There is one answer for each task: the verdict of `check` (`answer_check`), and for `bind` the
outcome that its verdict leads to, under the address and the name in effect (`answer_bind`).
-/

namespace Gatekeeper.CommandLine

open Credential (Outcome Verdict)
open Directory (Dialer Network)

variable {w : Surroundings} {args : List String} {a : Arguments} {c : Credentials} {s : Settings}
  {input : List UInt8} {net : Network} {answer : Answer}

/-! ## Answer or failure -/

/-- **A run fails or ends with an answer.** -/
theorem run_cases (h : Arguments.read w.environment args = .ok a) :
    ((run w args).status = failedStatus ∧ (run w args).output = "") ∨
      ∃ s answer, a.settings w.environment w.file = .ok s ∧
        Ends w args a s answer.status answer := by
  rcases hs : a.settings w.environment w.file with f | s
  · rw [run_eq h, Arguments.run, hs]
    exact .inl ⟨rfl, rfl⟩
  · rcases hr : (perform s w.input w.network a.task).result with trouble | answer
    · rw [run_eq_exit h hs, Session.exit, hr]
      exact .inl ⟨rfl, rfl⟩
    · exact .inr ⟨s, answer, rfl, ends_of_result h hs hr⟩

theorem ends_of_status_ne (h : Arguments.read w.environment args = .ok a)
    (answered : (run w args).status ≠ failedStatus) :
    ∃ s answer, a.settings w.environment w.file = .ok s ∧ Ends w args a s answer.status answer := by
  rcases run_cases h with ⟨failed, -⟩ | ends
  · exact absurd failed answered
  · exact ends

/-! ## The answers of the tasks -/

theorem answer_check (h : (perform s input net (.check c)).result = .ok answer) :
    ∃ p, c.password? input = .ok p ∧ answer = .judged (checkVerdict s p c.bindDn) := by
  rcases hp : c.password? input with f | p
  · simp [perform, withPassword, hp, Session.failed] at h
  · rw [perform_check hp] at h
    exact ⟨p, rfl, (Except.ok.inj h).symm⟩

/-- How an attempt with a verdict ends, when nothing fails. -/
def outcomeOf : Verdict → Outcome
  | .allow => .bound
  | v => .skipped v

theorem outcomeOf_of_ne {v : Verdict} (h : v ≠ .allow) : outcomeOf v = .skipped v := by
  cases v with
  | allow => exact absurd rfl h
  | _ => rfl

/-- **The answer of `bind`** comes from valid settings, and its outcome from the verdict. -/
theorem answer_bind (h : (perform s input net (.bind c)).result = .ok answer) :
    ∃ p address, c.password? input = .ok p ∧ s.ldap.validate = .ok () ∧
      s.ldap.address = .ok address ∧
      answer = .bind address (c.name s) (outcomeOf (c.verdict s p)) := by
  rcases hp : c.password? input with f | p
  · simp [perform, withPassword, hp, Session.failed] at h
  · rcases hv : s.ldap.validate with f | u
    · simp [perform, withPassword, hp, performBind, hv, Session.failed] at h
    · obtain ⟨-, address, -, ha, -⟩ := Settings.Ldap.exists_address_of_validate hv
      refine ⟨p, address, rfl, rfl, ha, ?_⟩
      by_cases allowed : c.verdict s p = .allow
      · rw [← verdict_eq c s p address] at allowed
        obtain ⟨cleared, hc⟩ := Credential.exists_cleared_of_allow allowed
        have bound := Credential.guarded_toAttempt (Dialer.ofSettings s.ldap).binder cleared net
        rw [hc] at bound
        rw [← verdict_eq c s p address, allowed]
        unfold Credentials.name at bound ⊢
        simp only [perform, withPassword, hp, performBind, hv, ha, bound] at h
        rcases hb : ((Dialer.ofSettings s.ldap).binder cleared net).result with f | u
        · simp [hb, Except.map] at h
        · simp only [hb, Except.map, Except.ok.injEq] at h
          exact h.symm
      · rw [perform_bind_of_rejected hp hv ha allowed] at h
        rw [outcomeOf_of_ne allowed]
        exact (Except.ok.inj h).symm

end Gatekeeper.CommandLine
