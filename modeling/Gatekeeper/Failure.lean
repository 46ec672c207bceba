import Gatekeeper.Text.Quoted
/-!
# Failures

What can go wrong between reading the configuration and the directory's answer.

* `message` is the wording for people and `code` the stable name for programs.
* `isTransient` separates what the same bind might overcome later, because the directory was not
  reached or did not answer, from what it answered or what was asked wrongly.
* `ofResultCode` turns the result code of a refused bind into a failure. Two codes have a failure
  of their own: wrong credentials, and an account that may not bind.

Any computation that can fail succeeds when all its steps do (`bind_ok_iff`).
-/

namespace Gatekeeper

/-- A computation in two steps succeeds when both do. -/
theorem bind_ok_iff {ε α β : Type} {x : Except ε α} {k : α → Except ε β} {b : β} :
    (x >>= k) = .ok b ↔ ∃ a, x = .ok a ∧ k a = .ok b := by
  cases x <;> simp [bind, Except.bind]

/-- Why a bind, or the work before it, failed. -/
inductive Failure
  /-- The directory could not be reached, or the connection broke. -/
  | connection (reason : String)
  /-- The directory did not answer in time. -/
  | timeout (seconds : UInt64)
  /-- The directory refused the bind with a result code. -/
  | bindFailed (code : UInt32) (message : String)
  /-- The directory does not know this name and password. -/
  | invalidCredentials
  /-- The directory knows the account and does not let it bind. -/
  | accountDisabled
  /-- The configuration cannot be used. -/
  | invalidConfig (reason : String)
  /-- A file or stream could not be read. -/
  | io (reason : String)
  /-- Any other failure, with what was being attempted, the innermost attempt first. -/
  | other (reason : String) (context : List String)
  deriving DecidableEq, Repr

namespace Failure

/-- The result code for invalid credentials. -/
def invalidCredentialsCode : UInt32 := 49

/-- The result code of a server that is unwilling to perform the bind. -/
def unwillingToPerformCode : UInt32 := 53

/-- The failure that a result code other than zero reports. -/
def ofResultCode (code : UInt32) (message : String) : Failure :=
  if code = invalidCredentialsCode then .invalidCredentials
  else if code = unwillingToPerformCode then .accountDisabled
  else .bindFailed code message

theorem ofResultCode_eq_invalidCredentials_iff {code : UInt32} {message : String} :
    ofResultCode code message = .invalidCredentials ↔ code = 49 := by
  by_cases h : code = 49
  · simp [ofResultCode, invalidCredentialsCode, h]
  · by_cases h' : code = 53 <;>
    simp [ofResultCode, invalidCredentialsCode, unwillingToPerformCode, h, h']

theorem ofResultCode_eq_accountDisabled_iff {code : UInt32} {message : String} :
    ofResultCode code message = .accountDisabled ↔ code = 53 := by
  by_cases h : code = 53
  · simp [ofResultCode, invalidCredentialsCode, unwillingToPerformCode, h]
  · by_cases h' : code = 49 <;>
    simp [ofResultCode, invalidCredentialsCode, unwillingToPerformCode, h, h']

/-- The codes without a failure of their own are told with their message. -/
theorem ofResultCode_eq_bindFailed_iff {code c : UInt32} {message m : String} :
    ofResultCode code message = .bindFailed c m ↔
      code ≠ 49 ∧ code ≠ 53 ∧ c = code ∧ m = message := by
  by_cases h : code = 49
  · simp [ofResultCode, invalidCredentialsCode, h]
  · by_cases h' : code = 53
    · simp [ofResultCode, invalidCredentialsCode, unwillingToPerformCode, h']
    · simp [ofResultCode, invalidCredentialsCode, unwillingToPerformCode, h, h', eq_comm]

/-- The failure to read a text from bytes that are none. -/
def notText : Failure := .io "stream did not contain valid UTF-8"

/-- The stable name of the kind of failure. -/
def code : Failure → String
  | connection _ => "ConnectionFailed"
  | timeout _ => "Timeout"
  | bindFailed _ _ => "BindFailed"
  | invalidCredentials => "InvalidCredentials"
  | accountDisabled => "AccountDisabled"
  | invalidConfig _ => "InvalidConfig"
  | io _ => "InternalError"
  | other _ _ => "InternalError"

/-- The failure in words. Of a failure with context the outermost attempt is told. -/
def message : Failure → String
  | connection reason => s!"Failed to connect to LDAP server: {reason}"
  | timeout seconds => s!"LDAP operation timed out after {seconds} seconds"
  | bindFailed code message => s!"LDAP bind failed with code {code}: {message}"
  | invalidCredentials => "Invalid credentials"
  | accountDisabled => "Account is disabled or locked"
  | invalidConfig reason => s!"Invalid configuration: {reason}"
  | io reason => reason
  | other reason context => context.getLastD reason

/-- Whether the same bind could succeed later. -/
def isTransient : Failure → Bool
  | connection _ | timeout _ | io _ => true
  | _ => false

/-- What the directory answered stays as it is. -/
theorem isTransient_ofResultCode (code : UInt32) (message : String) :
    (ofResultCode code message).isTransient = false := by
  unfold ofResultCode
  split
  · rfl
  · split <;> rfl

theorem ofResultCode_ne_of_isTransient {f : Failure} (h : f.isTransient = true) (code : UInt32)
    (message : String) : ofResultCode code message ≠ f := by
  rintro rfl
  rw [isTransient_ofResultCode] at h
  cases h

/-- The failure as a term, its texts quoted. Failures that come from outside have no such form. -/
def shown? : Failure → Option String
  | connection reason => some s!"Connection({Text.quoted reason})"
  | timeout seconds => some s!"Timeout({seconds})"
  | bindFailed code message =>
    some s!"BindFailed \x7b code: {code}, message: {Text.quoted message} \x7d"
  | invalidCredentials => some "InvalidCredentials"
  | accountDisabled => some "AccountDisabled"
  | invalidConfig reason => some s!"InvalidConfig({Text.quoted reason})"
  | io _ => none
  | other _ _ => none

end Failure

end Gatekeeper
