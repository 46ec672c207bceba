import Gatekeeper.Directory.Dialer
import Gatekeeper.Settings.File
import Gatekeeper.Settings.Variables
import Gatekeeper.Settings.Written
/-!
# Steps with settings

What can be done with settings in a program that holds them: they are loaded, one field of them is
changed, they are written out and loaded again, and they are asked about. A step that fails leaves
them as they were.
-/

namespace Gatekeeper.Settings

/-- Where settings are loaded from. -/
inductive Source
  | environment (lookup : Lookup)
  | file (entry : FileEntry)
  | given (s : Settings)

/-- The settings of a source. -/
def Source.load : Source → Except Failure Settings
  | environment lookup => .ok (ofVariables lookup)
  | file entry => ofFile entry
  | given s => .ok s

/-- A field with a new value. -/
inductive Change
  | serverUrl (url : String)
  | bindDn (name : String)
  | startTls (on : Bool)
  | timeoutSeconds (n : UInt64)
  | level (name : String)
  | format (name : String)
  deriving DecidableEq, Repr

/-- The settings with the field changed. -/
def Change.apply (s : Settings) : Change → Settings
  | serverUrl url => { s with ldap := { s.ldap with serverUrl := url } }
  | bindDn name => { s with ldap := { s.ldap with bindDn := name } }
  | startTls on => { s with ldap := { s.ldap with startTls := on } }
  | timeoutSeconds n => { s with ldap := { s.ldap with timeoutSeconds := n } }
  | level name => { s with logging := { s.logging with level := name } }
  | format name => { s with logging := { s.logging with format := name } }

/-- A step. -/
inductive Step
  | load (source : Source)
  | set (change : Change)
  /-- The settings are written to a file, and that file is loaded. -/
  | reload
  | validate
  | address
  | isJson
  /-- Whether an address is that of the configured server. -/
  | isConfigured (address : String)

/-- What a step answers. -/
inductive Reply
  | done
  | failed (f : Failure)
  | text (t : String)
  | truth (b : Bool)

/-- The reply of a step that looks for a fault. -/
def Reply.checked : Except Failure Unit → Reply
  | .ok _ => .done
  | .error f => .failed f

/-- The reply of a step that asks for a text. -/
def Reply.told : Except Failure String → Reply
  | .ok t => .text t
  | .error f => .failed f

namespace Step

/-- The reply of a step that loads settings, and the settings after it. -/
def loaded (s : Settings) : Except Failure Settings → Reply × Settings
  | .ok t => (.done, t)
  | .error f => (.failed f, s)

/-- The reply of a step, and the settings after it. -/
def run (s : Settings) : Step → Reply × Settings
  | load source => loaded s source.load
  | set change => (.done, change.apply s)
  | reload => loaded s (ofFile (.content (Utf8.encode s.toml)))
  | validate => (.checked s.validate, s)
  | address => (.told s.ldap.address, s)
  | isJson => (.truth s.logging.isJson, s)
  | isConfigured a => (.truth ((Directory.Dialer.ofSettings s.ldap).isConfigured a), s)

/-- The reply of each step and the settings after it. -/
def runAll (s : Settings) : List Step → List (Reply × Settings)
  | [] => []
  | step :: steps => step.run s :: runAll (step.run s).2 steps

/-- The settings after some steps. -/
def after (s : Settings) (steps : List Step) : Settings :=
  steps.foldl (fun s step => (step.run s).2) s

end Step

end Gatekeeper.Settings
