import Gatekeeper.Credential.Verdict
import Gatekeeper.Text.Class
import Gatekeeper.Text.Quoted
import Gatekeeper.Url.Query
/-!
# Attempts

A request to bind, before and after validation.

A simple bind without a password, or without a name, asks for an anonymous session, which many
servers grant. So whoever forwards what a user typed would take a blank password for a proof of
identity. `verdict` decides before anything is sent:

* a password that is absent or all white space is rejected first, whatever the name;
* then a blank name, a control character in the name, and a control character in the password that
  is no white space.

`Cleared` is an attempt that passed; `check` is the only way to one, and it changes nothing.
-/

namespace Gatekeeper.Credential

/-- A request to bind. Nothing is known of the password: it may be missing. -/
structure Attempt where
  /-- The server as `host:port`. -/
  server : String
  /-- The name to bind as. -/
  bindDn : String
  password : Option String
  deriving DecidableEq

namespace Attempt

/-- The attempt whose password is the first `password` parameter of a query string. -/
def ofQuery (server bindDn query : String) : Attempt :=
  ⟨server, bindDn, Url.Query.first? "password" query⟩

end Attempt

/-! ## Validation -/

/-- The verdict on a password alone. -/
def passwordVerdict : Option String → Verdict
  | some p => if Text.isAllBlank p then .rejectEmptyPassword else .allow
  | none => .rejectEmptyPassword

/-- The text may stand in a name. -/
def isCleanName (dn : String) : Bool :=
  !Text.isAllBlank dn && !dn.toList.any Text.isControl

/-- The text may be a password, blank or not. -/
def isCleanPassword (p : String) : Bool :=
  !p.toList.any fun c => Text.isControl c && !Text.isBlank c

namespace Attempt

/-- The verdict on a whole attempt, the password first. -/
def verdict (a : Attempt) : Verdict :=
  if passwordVerdict a.password ≠ .allow then passwordVerdict a.password
  else if !isCleanName a.bindDn then .rejectUnsanitizedInput
  else if !isCleanPassword (a.password.getD "") then .rejectUnsanitizedInput
  else .allow

end Attempt

/-- An attempt that passed validation. -/
structure Cleared where
  server : String
  bindDn : String
  password : String
  allowed : Attempt.verdict ⟨server, bindDn, some password⟩ = .allow
  deriving DecidableEq

/-- The attempt, cleared, or the verdict that rejects it. -/
def Attempt.check : Attempt → Except Verdict Cleared
  | ⟨server, dn, some password⟩ =>
    if h : verdict ⟨server, dn, some password⟩ = .allow then .ok ⟨server, dn, password, h⟩
    else .error (verdict ⟨server, dn, some password⟩)
  | ⟨server, dn, none⟩ => .error (verdict ⟨server, dn, none⟩)

/-! ## What is shown of an attempt

The password is never shown, only whether there is one. -/

/-- What is shown in the place of a password. -/
def redacted : String := Text.quoted "<redacted>"

/-- The attempt as a term. -/
def Attempt.shown (a : Attempt) : String :=
  let password := match a.password with
    | some _ => s!"Some({redacted})"
    | none => "None"
  s!"BindAttempt \x7b server_address: {Text.quoted a.server}, " ++
    s!"bind_dn: {Text.quoted a.bindDn}, password: {password} \x7d"

/-- The cleared attempt as a term. -/
def Cleared.shown (c : Cleared) : String :=
  s!"ValidatedAttempt \x7b server_address: {Text.quoted c.server}, " ++
    s!"bind_dn: {Text.quoted c.bindDn}, password: {redacted} \x7d"

end Gatekeeper.Credential
