import Gatekeeper.Credential.Guard
import Gatekeeper.Directory.Exchange
import Gatekeeper.Settings.Validity
/-!
# The dialer

The binder for a real directory. Scheme, upgrade and timeout come from the settings it was made
with, the address from each attempt.

An attempt is expected to name the configured server. Any other server is dialed all the same, in
the configured way, and a warning tells so.
-/

namespace Gatekeeper.Directory

/-- How to reach the directory. -/
structure Dialer where
  /-- The connection is encrypted from the start. -/
  useTls : Bool
  /-- A plain connection is upgraded before the bind. -/
  startTls : Bool
  /-- How many seconds to wait. -/
  timeout : UInt64
  /-- The address that the settings name, when they name one. -/
  configured : Option String
  deriving DecidableEq, Repr

namespace Dialer

/-- The dialer for some settings. The URL as it is written decides on encryption. -/
def ofSettings (s : Settings.Ldap) : Dialer where
  useTls := "ldaps://".toList.isPrefixOf s.serverUrl.toList
  startTls := s.startTls
  timeout := s.timeoutSeconds
  configured := s.address.toOption

/-- The address is the one of the settings. -/
def isConfigured (d : Dialer) (address : String) : Bool := d.configured = some address

/-- The scheme that is dialed. -/
def scheme (d : Dialer) : String := if d.useTls then "ldaps" else "ldap"

/-- The URL that is dialed for an address. -/
def url (d : Dialer) (address : String) : String := s!"{d.scheme}://{address}"

/-- How a connection to a URL is used. -/
def session (d : Dialer) : Session :=
  if d.useTls then .encrypted else if d.startTls then .upgraded else .plain

/-- The attempt names another server than the settings. -/
def otherServerEvent (c : Credential.Cleared) : Log.Event where
  level := .warn
  target := Credential.guardTarget
  message := "Attempt targets a server other than the configured one; using the configured scheme"
  fields := [("server", c.server)]

/-- A connection is opened. -/
def connectingEvent (url : String) : Log.Event where
  level := .debug
  target := Credential.guardTarget
  message := s!"Connecting to LDAP server: {url}"

/-- Dials the server of an attempt and binds. -/
def binder (d : Dialer) : Credential.Binder Network := fun c net =>
  let events := (if d.isConfigured c.server then [] else [otherServerEvent c]) ++
    [connectingEvent (d.url c.server)]
  match Url.parse (d.url c.server).toList with
  | .error fault => ⟨.error (.connection s!"url parse error: {fault.message}"), events, net⟩
  | .ok _ =>
    let (result, net) := bind d.session d.timeout c.bindDn c.password net
    ⟨result, events, net⟩

/-- The dialer as a term. -/
def shown (d : Dialer) : String :=
  let timeout := if d.timeout = 0 then "0ns" else s!"{d.timeout}s"
  let configured := match d.configured with
    | some a => s!"Some({Text.quoted a})"
    | none => "None"
  s!"Ldap3Binder \x7b use_tls: {d.useTls}, start_tls: {d.startTls}, timeout: {timeout}, " ++
    s!"configured_address: {configured} \x7d"

end Dialer

end Gatekeeper.Directory
