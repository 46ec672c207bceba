/-!
# Settings

What a user can set: the directory to bind against and how to log. Each field has a default, so
`{}` is a complete configuration.
-/

namespace Gatekeeper

namespace Settings

/-- The directory that binds go to. -/
structure Ldap where
  /-- The server as a URL of scheme `ldap` or `ldaps`. -/
  serverUrl : String := "ldap://localhost:389"
  /-- The name to bind as when a request gives none. -/
  bindDn : String := ""
  /-- Whether a plain connection is upgraded before the bind. -/
  startTls : Bool := false
  /-- How long to wait for the connection and for an answer. -/
  timeoutSeconds : UInt64 := 10
  deriving DecidableEq, Repr, Inhabited

/-- How events are logged. -/
structure Logging where
  /-- Which events are shown. -/
  level : String := "info"
  /-- How an event is written: `pretty` or `json`. -/
  format : String := "pretty"
  deriving DecidableEq, Repr, Inhabited

end Settings

/-- A configuration. -/
structure Settings where
  ldap : Settings.Ldap := {}
  logging : Settings.Logging := {}
  deriving DecidableEq, Repr, Inhabited

end Gatekeeper
