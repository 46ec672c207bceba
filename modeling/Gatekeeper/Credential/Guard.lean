import Gatekeeper.Credential.Attempt
import Gatekeeper.Failure
import Gatekeeper.Log.Event
/-!
# The guard

`guarded` puts the validator in front of a binder. The binder is called for cleared attempts only,
at most once each, and what it answers is passed on; a rejected attempt is skipped, which is no
failure.

The guard tells one event of its own for each attempt, after those of the binder: that the attempt
was skipped, that the bind succeeded, that the directory was unavailable, or that it refused.
-/

namespace Gatekeeper.Credential

/-- How a guarded bind ended, when nothing failed. -/
inductive Outcome
  /-- The directory accepted the bind. -/
  | bound
  /-- The attempt was rejected and no bind was made. -/
  | skipped (verdict : Verdict)
  deriving DecidableEq, Repr

namespace Outcome

/-- The directory accepted the bind. -/
def isBound (o : Outcome) : Bool := o = bound

/-- The verdict of a skipped attempt. -/
def rejection? : Outcome → Option Verdict
  | bound => none
  | skipped v => some v

/-- The outcome as a term. -/
def shown : Outcome → String
  | bound => "Bound"
  | skipped v => s!"Skipped({v.shown})"

end Outcome

/-- What a step over a world of type `σ` gives: a result, the events on the way, and the world
after it. -/
structure Traced (σ α : Type) where
  result : Except Failure α
  events : List Log.Event
  world : σ

/-- Binds a cleared attempt in a world. -/
abbrev Binder (σ : Type) := Cleared → σ → Traced σ Unit

/-- The target of the events that guard and binder tell. -/
def guardTarget : String := "bindguard_auth::ldap::client"

/-! ## Events of the guard -/

/-- The attempt was rejected. -/
def skippedEvent (server : String) (v : Verdict) : Log.Event where
  level := .warn
  target := guardTarget
  message := s!"Skipping LDAP bind: {v.description}"
  fields := [("server", server), ("result", v.name)]

/-- The binder failed. -/
def failedEvent (c : Cleared) (f : Failure) : Log.Event :=
  if f.isTransient then
    ⟨.warn, guardTarget, s!"LDAP server unavailable: {f.message}", [("server", c.server)]⟩
  else
    ⟨.error, guardTarget, s!"LDAP bind rejected: {f.message}",
      [("server", c.server), ("bind_dn", c.bindDn)]⟩

/-- The directory accepted the bind. -/
def boundEvent (c : Cleared) : Log.Event where
  level := .info
  target := guardTarget
  message := "LDAP bind succeeded"
  fields := [("server", c.server), ("bind_dn", c.bindDn)]

/-! ## Guarded binds -/

/-- Validates the attempt and binds it when it is allowed. -/
def guarded {σ : Type} (binder : Binder σ) (a : Attempt) (world : σ) : Traced σ Outcome :=
  match a.check with
  | .error v => ⟨.ok (.skipped v), [skippedEvent a.server v], world⟩
  | .ok c =>
    let t := binder c world
    match t.result with
    | .ok () => ⟨.ok .bound, t.events ++ [boundEvent c], t.world⟩
    | .error f => ⟨.error f, t.events ++ [failedEvent c f], t.world⟩

/-- Binds the attempts one after the other, each in the world that the one before it left. -/
def guardedAll {σ : Type} (binder : Binder σ) : List Attempt → σ → List (Traced σ Outcome)
  | [], _ => []
  | a :: as, world =>
    let t := guarded binder a world
    t :: guardedAll binder as t.world

/-! ## A scripted binder -/

/-- The calls that a scripted binder has received, the first one first. -/
abbrev Calls := List Cleared

/-- The binder that keeps its calls and answers call number `n` by `script n`. -/
def scripted (script : Nat → Except Failure Unit) : Binder Calls := fun c calls =>
  ⟨script calls.length, [], calls ++ [c]⟩

end Gatekeeper.Credential
