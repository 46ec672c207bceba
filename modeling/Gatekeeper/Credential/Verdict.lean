/-!
# Verdicts

The answer of the validator. Only `allow` lets a bind go ahead.
-/

namespace Gatekeeper.Credential

/-- What the validator says of a password or a whole attempt. -/
inductive Verdict
  /-- The credentials may be used. -/
  | allow
  /-- There is no password, or only white space: the server would bind anonymously. -/
  | rejectEmptyPassword
  /-- The name or the password holds what the server must not see. -/
  | rejectUnsanitizedInput
  deriving DecidableEq, Repr

namespace Verdict

/-- All verdicts. -/
def all : List Verdict := [allow, rejectEmptyPassword, rejectUnsanitizedInput]

/-- The credentials may be used. -/
def isAllowed (v : Verdict) : Bool := v = allow

/-- The name of the verdict for programs. -/
def name : Verdict → String
  | allow => "allow"
  | rejectEmptyPassword => "reject_empty_password"
  | rejectUnsanitizedInput => "reject_unsanitized_input"

/-- The reason in words. -/
def description : Verdict → String
  | allow => "credentials may be used to bind"
  | rejectEmptyPassword => "password is empty; the server would treat the bind as anonymous"
  | rejectUnsanitizedInput => "bind DN or password contains unsanitized input"

/-- The verdict as a term. -/
def shown : Verdict → String
  | allow => "Allow"
  | rejectEmptyPassword => "RejectEmptyPassword"
  | rejectUnsanitizedInput => "RejectUnsanitizedInput"

/-- The verdict with a name. -/
def ofName? (name : String) : Option Verdict := all.find? (·.name = name)

theorem ofName?_name (v : Verdict) : ofName? v.name = some v := by cases v <;> decide

theorem eq_of_name_eq {v v' : Verdict} (h : v.name = v'.name) : v = v' := by
  have same := congrArg ofName? h
  rw [ofName?_name, ofName?_name] at same
  exact Option.some.inj same

end Verdict

end Gatekeeper.Credential
