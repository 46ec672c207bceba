import Gatekeeper.CommandLine.Session
import Gatekeeper.CommandLine.VariableFile
import Gatekeeper.Log.Filter
import Gatekeeper.Log.Line
/-!
# Processes

A run of the program from the arguments to the status it ends with. Everything it finds is a value
here, its `Surroundings`, and so is everything it leaves, an `Exit`.

A file of variables completes the environment before the arguments are read. The answer goes to
the output; events that the log filter shows, and then the report on a failure, go to the
diagnostics.
-/

namespace Gatekeeper.CommandLine

open Directory (Network)
open Settings (FileEntry Lookup)

/-- What a process finds. -/
structure Surroundings where
  lookup : Lookup
  file : String → FileEntry
  input : List UInt8
  network : Network

/-- What a process leaves. -/
structure Exit where
  status : UInt8
  output : String
  diagnostics : String
  network : Network

/-- The version of the program. -/
def programVersion : String := "0.1.0"

/-- How the program is used. -/
def usage : String :=
  "Validate LDAP bind credentials before binding\n\n" ++
  "Usage: bindguard [OPTIONS] <COMMAND>\n\n" ++
  "Commands:\n" ++
  "  check   Validate a bind password without contacting the server\n" ++
  "  bind    Validate, then bind against the configured server\n" ++
  "  config  Show the effective configuration\n"

/-- The file that completes the environment. -/
def variableFile : String := ".env"

/-- The variable that asks for colours. -/
def colourVariable : String := "CLICOLOR_FORCE"

/-- The variable of the log filter. -/
def filterVariable : String := "RUST_LOG"

/-- The variables that the program reads. -/
def variableNames : List String :=
  [Variable.config, Variable.password, Settings.Variable.serverUrl, Settings.Variable.bindDn,
    Settings.Variable.startTls, Settings.Variable.timeoutSeconds, Settings.Variable.logLevel,
    Settings.Variable.logFormat, colourVariable, filterVariable]

/-- The environment that the process works with. -/
def Surroundings.environment (w : Surroundings) : Lookup :=
  VariableFile.complete w.lookup (w.file variableFile)

/-- Colours are asked for. -/
def isColoured (env : Lookup) : Bool :=
  match env colourVariable with
  | some v => v ≠ "0"
  | none => false

/-- The report on a failure: what was attempted, and the cause below it, each of its lines
indented. -/
def Trouble.report (t : Trouble) : String :=
  match t.attempted with
  | none => s!"Error: {t.failure.message}\n"
  | some attempted =>
    let cause := String.ofList (t.failure.message.toList.flatMap fun c =>
      if c = '\n' then "\n    ".toList else [c])
    s!"Error: {attempted}\n\nCaused by:\n    {cause}\n"

/-- The exit of a process that stopped before its task. -/
def Halt.exit (net : Network) : Halt → Exit
  | .fault f =>
    ⟨2, "", s!"error: {f.message}\n\nFor more information, try '--help'.\n", net⟩
  | .help => ⟨0, usage, "", net⟩
  | .bare => ⟨2, "", usage, net⟩
  | .version => ⟨0, s!"bindguard {programVersion}\n", "", net⟩

/-- What is logged of a session under some settings, when the variable of the filter has the value
`asked`. Directives that are passed over are told first. -/
def logText (s : Settings) (asked : Option String) (events : List Log.Event) : String :=
  let (filter, notices) := Log.Filter.choose asked s.logging.level
  let lines := Log.written s.logging.isJson (events.filter filter.shows)
  String.join ((notices ++ lines).map (· ++ "\n"))

/-- The exit of a process that did its task. -/
def Session.exit (s : Settings) (a : Arguments) (env : Lookup) (session : Session) : Exit :=
  let log := logText s (env filterVariable) session.events
  match session.result with
  | .ok answer =>
    ⟨answer.status, answer.output a.output a.quiet (isColoured env), log, session.network⟩
  | .error trouble => ⟨failedStatus, "", log ++ trouble.report, session.network⟩

/-- Does what the arguments ask for. -/
def Arguments.run (a : Arguments) (env : Lookup) (w : Surroundings) : Exit :=
  match a.settings env w.file with
  | .error f => ⟨failedStatus, "", Trouble.report ⟨none, f⟩, w.network⟩
  | .ok s => (perform s w.input w.network a.task).exit s a env

/-- The process reads its input. It does so last: a command line that is not understood and settings
that cannot be read end it before. -/
def readsInput (w : Surroundings) (args : List String) : Bool :=
  match Arguments.read w.environment args with
  | .error _ => false
  | .ok a =>
    match a.settings w.environment w.file with
    | .error _ => false
    | .ok _ => a.task.readsInput

/-- Runs the program. -/
def run (w : Surroundings) (args : List String) : Exit :=
  match Arguments.read w.environment args with
  | .error halt => halt.exit w.network
  | .ok a => a.run w.environment w

end Gatekeeper.CommandLine
