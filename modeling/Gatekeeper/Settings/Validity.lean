import Gatekeeper.Failure
import Gatekeeper.Settings.Basic
import Gatekeeper.Text.Class
import Gatekeeper.Url.Basic
/-!
# Valid settings

`Ldap.validate` tells whether the directory settings can be used for a bind, and `Ldap.address` is
the `host:port` that they name. Both read the server URL through `Ldap.url`, so they refuse the
same URLs with the same words; `validate` then also refuses STARTTLS over a connection that is
encrypted already, and a timeout of zero.
-/

namespace Gatekeeper.Settings

/-- The port of plain connections and of those upgraded by STARTTLS. -/
def plainPort : Nat := 389

/-- The port of connections that are encrypted from the start. -/
def tlsPort : Nat := 636

namespace Ldap

/-- The server URL taken apart, of one of the two schemes. -/
def url (s : Ldap) : Except Failure Url :=
  if s.serverUrl.isEmpty then .error (.invalidConfig "Server URL is required")
  else
    match Url.parse s.serverUrl.toList with
    | .error fault =>
      .error (.invalidConfig s!"Invalid server URL {s.serverUrl}: {fault.message}")
    | .ok url =>
      if url.scheme = "ldap".toList || url.scheme = "ldaps".toList then .ok url
      else .error (.invalidConfig
        s!"Server URL must start with ldap:// or ldaps://, got {String.ofList url.scheme}://")

/-- The failure of a URL that names no host. -/
def missingHost : Failure := .invalidConfig "Server URL must include a host"

/-- The URL is of the encrypted scheme. -/
def isTls (url : Url) : Bool := url.scheme = "ldaps".toList

/-- The port that a URL of one of the two schemes names: the scheme's own where it gives none. -/
def portOf (url : Url) : Nat := url.port.getD (if isTls url then tlsPort else plainPort)

/-- The settings can be used for a bind. -/
def validate (s : Ldap) : Except Failure Unit := do
  let url ← s.url
  if url.host.isNone then .error missingHost
  else if isTls url && s.startTls then
    .error (.invalidConfig "STARTTLS cannot be combined with an ldaps:// URL")
  else if s.timeoutSeconds = 0 then
    .error (.invalidConfig "timeout_seconds must be greater than zero")
  else .ok ()

/-- The server as `host:port`. -/
def address (s : Ldap) : Except Failure String := do
  let url ← s.url
  match url.host with
  | none => .error missingHost
  | some host => .ok s!"{String.ofList host.text}:{portOf url}"

end Ldap

namespace Logging

/-- Events are written as JSON, one object a line. -/
def isJson (s : Logging) : Bool := Text.lower s.format = "json"

/-- The format is one of the two known ones, in any letter case. -/
def validate (s : Logging) : Except Failure Unit :=
  if Text.lower s.format = "pretty" || Text.lower s.format = "json" then .ok ()
  else .error (.invalidConfig s!"Unknown log format: {Text.lower s.format}")

end Logging

/-- Both sections are valid; the fault of the directory section comes first. -/
def validate (s : Settings) : Except Failure Unit := do
  s.ldap.validate
  s.logging.validate

end Gatekeeper.Settings
