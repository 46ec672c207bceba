import Gatekeeper.Json.Basic
import Gatekeeper.Settings.Basic
import Gatekeeper.Toml.Writer
/-!
# Settings as text

The settings written out in full, as a TOML document that reads back as them, and as JSON.
-/

namespace Gatekeeper.Settings

/-- The section on the directory. -/
def Ldap.toml (s : Ldap) : List Char :=
  Toml.headerLine "ldap" ++
  Toml.assignmentLine "server_url" (Toml.stringText s.serverUrl) ++
  Toml.assignmentLine "bind_dn" (Toml.stringText s.bindDn) ++
  Toml.assignmentLine "start_tls" (Toml.booleanText s.startTls) ++
  Toml.assignmentLine "timeout_seconds" (Nat.toDigits 10 s.timeoutSeconds.toNat)

/-- The section on logging. -/
def Logging.toml (s : Logging) : List Char :=
  Toml.headerLine "logging" ++
  Toml.assignmentLine "level" (Toml.stringText s.level) ++
  Toml.assignmentLine "format" (Toml.stringText s.format)

/-- The settings as a TOML document. -/
def toml (s : Settings) : List Char := s.ldap.toml ++ ['\n'] ++ s.logging.toml

/-- The settings as JSON. -/
def json (s : Settings) : Json :=
  .object [
    ("ldap", .object [
      ("server_url", .string s.ldap.serverUrl),
      ("bind_dn", .string s.ldap.bindDn),
      ("start_tls", .bool s.ldap.startTls),
      ("timeout_seconds", .ofNat s.ldap.timeoutSeconds.toNat)]),
    ("logging", .object [
      ("level", .string s.logging.level),
      ("format", .string s.logging.format)])]

end Gatekeeper.Settings
