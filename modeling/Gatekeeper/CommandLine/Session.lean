import Gatekeeper.CommandLine.Answer
import Gatekeeper.CommandLine.Arguments
import Gatekeeper.Directory.Dialer
import Gatekeeper.Settings.File
import Gatekeeper.Text.Lines
/-!
# Sessions

What the program does, once a command line has been understood.

* `Arguments.settings` are the settings in effect: those of a file or else of the variables, with
  the server and the log level of the command line put in.
* `Credentials.password?` is the password that counts, given or read from the first line of the
  input.
* `perform` does a task under settings and gives a session: the answer or what went wrong, the
  events, and the network afterwards. How answer and events are to be written has no part in it.

A bind is attempted only with settings that are valid for it; `config` merely warns when they are
not.
-/

namespace Gatekeeper.CommandLine

open Credential (Attempt Outcome passwordVerdict)
open Directory (Dialer Network)
open Settings (FileEntry Lookup)

/-! ## Settings in effect -/

/-- The settings in effect. -/
def Arguments.settings (a : Arguments) (env : Lookup) (file : String → FileEntry) :
    Except Failure Settings := do
  let base ← match a.configFile with
    | some path => Settings.ofFile (file path)
    | none => .ok (Settings.ofVariables env)
  .ok {
    ldap := { base.ldap with serverUrl := a.server.getD base.ldap.serverUrl }
    logging := { base.logging with level := a.logLevel.getD base.logging.level } }

/-! ## The password -/

/-- The password on the first line of the input, if there is any input. A line that is not text is
a failure; what comes after the first line does not count. -/
def passwordLine (input : List UInt8) : Except Failure (Option String) :=
  match Text.lines input with
  | [] => .ok none
  | line :: _ =>
    match Utf8.decode? line with
    | some cs => .ok (some (String.ofList (Text.withoutLineEnd cs)))
    | none => .error .notText

/-- The password that counts. -/
def Credentials.password? (c : Credentials) (input : List UInt8) : Except Failure (Option String) :=
  if c.fromInput then passwordLine input else .ok c.password

/-! ## Tasks -/

/-- Why a session has no answer: the failure, and what was being attempted where that is told. -/
structure Trouble where
  attempted : Option String
  failure : Failure
  deriving DecidableEq, Repr

/-- What a task did. -/
structure Session where
  result : Except Trouble Answer
  events : List Log.Event
  network : Network

/-- A session that did nothing but fail. -/
def Session.failed (net : Network) (attempted : String) (f : Failure) : Session :=
  ⟨.error ⟨some attempted, f⟩, [], net⟩

/-- A bind is about to be made. -/
def guardedBindEvent (address bindDn : String) : Log.Event where
  level := .debug
  target := "bindguard::commands::bind"
  message := s!"Guarded bind to {address} as {bindDn}"

/-- The settings that are shown do not suffice for a bind. -/
def unusableEvent (f : Failure) : Log.Event where
  level := .warn
  target := "bindguard::commands::config"
  message := s!"Configuration is not usable for binding: {f.message}"

/-- The verdict of `check`: on the password, and on the name when there is one. -/
def checkVerdict (s : Settings) (password bindDn : Option String) : Credential.Verdict :=
  match bindDn with
  | some dn => Attempt.verdict ⟨s.ldap.serverUrl, dn, password⟩
  | none => passwordVerdict password

/-- The session of `bind`. -/
def performBind (s : Settings) (password bindDn : Option String) (net : Network) : Session :=
  match s.ldap.validate with
  | .error f => .failed net "Invalid LDAP configuration" f
  | .ok () =>
    match s.ldap.address with
    | .error f => ⟨.error ⟨none, f⟩, [], net⟩
    | .ok address =>
      let dn := bindDn.getD s.ldap.bindDn
      let t := Credential.guarded (Dialer.ofSettings s.ldap).binder ⟨address, dn, password⟩ net
      { result := match t.result with
          | .ok outcome => .ok (.bind address dn outcome)
          | .error f => .error ⟨some s!"LDAP bind to {address} failed", f⟩
        events := guardedBindEvent address dn :: t.events
        network := t.world }

/-- The session of `config`. -/
def performConfig (s : Settings) (net : Network) : Session where
  result := .ok (.settings s)
  events :=
    match s.validate with
    | .ok () => []
    | .error f => [unusableEvent f]
  network := net

/-- The session of a task that has read its credentials. -/
def withPassword (c : Credentials) (input : List UInt8) (net : Network)
    (go : Option String → Session) : Session :=
  match c.password? input with
  | .ok password => go password
  | .error f => .failed net "Failed to read password from stdin" f

/-- The session of a task. -/
def perform (s : Settings) (input : List UInt8) (net : Network) : Task → Session
  | .check c => withPassword c input net fun password =>
      ⟨.ok (.judged (checkVerdict s password c.bindDn)), [], net⟩
  | .bind c => withPassword c input net fun password => performBind s password c.bindDn net
  | .config => performConfig s net

end Gatekeeper.CommandLine
