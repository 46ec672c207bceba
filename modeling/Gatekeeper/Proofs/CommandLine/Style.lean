import Gatekeeper.Proofs.CommandLine.InEffect
import Gatekeeper.Proofs.Log.Line

/-!
# What is done, and how it is shown

A run whose arguments were understood has a session: what it did, or why it failed. What the run
leaves is this session in a style, which is how the answer is written, which events are shown, and
in which format (`run_eq_shown`).

The style is set by three parameters, three variables, and the logging section of a file of
settings. The tasks `check` and `bind` look at none of them: they work with the directory settings
alone (`perform_eq_of_ldap`), and these are the same in two runs that differ in style
(`map_ldap_settings_eq`). So the two runs have one session (`Restyled.session_eq`), and their logs
tell the events of that session, each in a line that shows it (`logTells_log`).
`same_deed_in_any_style` says what this means for status, network, output and diagnostics.
-/

namespace Gatekeeper.CommandLine

open Settings (FileEntry Lookup)

variable {env env' : Lookup} {file file' : String → FileEntry} {w w' : Surroundings}
  {args args' : List String} {a a' : Arguments} {l l' : Line} {s s' : Settings}

/-! ## The session of a run -/

/-- The session of arguments. Without settings it fails before the task begins. -/
def Arguments.session (a : Arguments) (w : Surroundings) : Session :=
  match a.settings w.environment w.file with
  | .ok s => perform s w.input w.network a.task
  | .error f => ⟨.error ⟨none, f⟩, [], w.network⟩

/-- What is logged of that session. Where there are no settings there is no log yet. -/
def Arguments.log (a : Arguments) (w : Surroundings) : String :=
  match a.settings w.environment w.file with
  | .ok s => logText s (w.environment filterVariable) (a.session w).events
  | .error _ => ""

namespace Session

/-- The status that a session leads to. -/
def status (x : Session) : UInt8 :=
  match x.result with
  | .ok answer => answer.status
  | .error _ => failedStatus

/-- The answer of a session as it is written. -/
def output (x : Session) (format : OutputFormat) (quiet coloured : Bool) : String :=
  match x.result with
  | .ok answer => answer.output format quiet coloured
  | .error _ => ""

/-- The report on a session that failed. -/
def report (x : Session) : String :=
  match x.result with
  | .ok _ => ""
  | .error trouble => trouble.report

end Session

/-- **A run shows its session**, in the style that its arguments and settings ask for. -/
theorem run_eq_shown (h : Arguments.read w.environment args = .ok a) :
    run w args =
      ⟨(a.session w).status, (a.session w).output a.output a.quiet (isColoured w.environment),
        a.log w ++ (a.session w).report, (a.session w).network⟩ := by
  rcases hs : a.settings w.environment w.file with f | s
  · simp only [run_eq h, Arguments.run, Arguments.session, Arguments.log, hs, Session.status,
      Session.output, Session.report, String.empty_append]
  · rw [run_eq_exit h hs]
    rcases hr : (perform s w.input w.network a.task).result with trouble | answer
    · simp only [Session.exit, Arguments.session, Arguments.log, hs, hr, Session.status,
        Session.output, Session.report]
    · simp only [Session.exit, Arguments.session, Arguments.log, hs, hr, Session.status,
        Session.output, Session.report, String.append_empty]

/-- The text of a log: notices, and then the lines of events. -/
def logLines (notices lines : List String) : String :=
  String.join ((notices ++ lines).map (· ++ "\n"))

/-- A log tells notices, and then events in a format. -/
structure LogTells (log : String) (notices : List String) (events : List Log.Event)
    (asJson : Bool) : Prop where
  /-- The events have one line each, in their order. -/
  text : log = logLines notices (events.map (Log.Event.line asJson))
  /-- The line of an event shows this event. -/
  shows : List.Forall₂ (Log.Shows asJson) (events.map (Log.Event.line asJson)) events

theorem logTells_log (hs : a.settings w.environment w.file = .ok s) :
    LogTells (a.log w) (Log.Filter.choose (w.environment filterVariable) s.logging.level).2
      ((a.session w).events.filter
        (Log.Filter.choose (w.environment filterVariable) s.logging.level).1.shows)
      s.logging.isJson where
  text := by simp only [Arguments.log, hs, logText, Log.written_eq, logLines]
  shows := Log.forall₂_shows_lines ..

theorem output_of_quiet (x : Session) (ht : ∀ t, x.result ≠ .ok (.settings t)) (coloured : Bool) :
    x.output .text true coloured = "" := by
  unfold Session.output
  rcases hr : x.result with trouble | answer
  · rfl
  · cases answer with
    | judged v => rfl
    | bind address dn outcome => rfl
    | settings t => exact absurd hr (ht t)

/-- As JSON an answer cannot be silenced. -/
theorem output_json (x : Session) (quiet quiet' coloured : Bool) :
    x.output .json quiet coloured = x.output .json quiet' coloured := by
  rcases hr : x.result with trouble | answer <;> simp only [Session.output, hr, Answer.output]

/-! ## Tasks -/

/-- Without `config` a task looks at the directory settings alone. -/
theorem perform_eq_of_ldap (h : s.ldap = s'.ldap) {task : Task} (ht : task ≠ .config)
    (input : List UInt8) (net : Directory.Network) :
    perform s input net task = perform s' input net task := by
  cases task with
  | check c =>
    have verdict (p : Option String) : checkVerdict s p c.bindDn = checkVerdict s' p c.bindDn := by
      simp only [checkVerdict, h]
    simp only [perform, verdict]
  | bind c =>
    have session (p : Option String) :
        performBind s p c.bindDn net = performBind s' p c.bindDn net := by
      simp only [performBind, h]
    simp only [perform, session]
  | config => exact absurd rfl ht

theorem answer_perform_ne_settings {task : Task} (ht : task ≠ .config) (input : List UInt8)
    (net : Directory.Network) (t : Settings) :
    (perform s input net task).result ≠ .ok (.settings t) := by
  cases task with
  | check c =>
    simp only [perform, withPassword]
    split <;> simp [Session.failed]
  | bind c =>
    simp only [perform, withPassword]
    split
    · unfold performBind
      split
      · simp [Session.failed]
      · split
        · simp
        · dsimp only
          split <;> simp
    · simp [Session.failed]
  | config => exact absurd rfl ht

/-! ## Style -/

/-- The parameters of style. -/
def Parameter.isStyle : Parameter → Bool
  | output | quiet | logLevel => true
  | _ => false

/-- The variables of style. -/
def styleVariables : List String :=
  [Settings.Variable.logLevel, Settings.Variable.logFormat, filterVariable]

/-- The line without its parameters of style. -/
def Line.unstyled (l : Line) : Line where
  before := l.before.filter fun g => !g.1.isStyle
  command := l.command
  after := l.after.filter fun g => !g.1.isStyle

/-- The arguments without their style. -/
def Arguments.unstyled (a : Arguments) : Arguments :=
  { a with output := .text, quiet := false, logLevel := none }

/-- The environments agree on all that is no matter of style. -/
def AgreeBesidesStyle (env env' : Lookup) : Prop :=
  ∀ name, name ∉ styleVariables → env name = env' name

theorem lookup_unstyled (gs : List (Parameter × String)) {p : Parameter} (hp : p.isStyle = false) :
    (gs.filter fun g => !g.1.isStyle).lookup p = gs.lookup p :=
  lookup_filter (fun p => !p.isStyle) gs (by rw [hp]; rfl)

/-- Lines that differ in style give the same arguments but for that. -/
theorem unstyled_arguments_eq (hl : l.unstyled = l'.unstyled) (he : AgreeBesidesStyle env env') :
    (l.arguments env).unstyled = (l'.arguments env').unstyled := by
  obtain ⟨hb, command, ha⟩ := Line.mk.inj hl
  have before (p : Parameter) (hp : p.isStyle = false) :
      l.before.lookup p = l'.before.lookup p := by
    rw [← lookup_unstyled l.before hp, hb, lookup_unstyled l'.before hp]
  have after (p : Parameter) (hp : p.isStyle = false) : l.after.lookup p = l'.after.lookup p := by
    rw [← lookup_unstyled l.after hp, ha, lookup_unstyled l'.after hp]
  have credentials (place : Option Command) :
      Arguments.credentials env ⟨place, l.after, none⟩ =
        Arguments.credentials env' ⟨place, l'.after, none⟩ := by
    simp only [Arguments.credentials, Place.has, Place.value?_eq_lookup, after .password rfl,
      after .passwordStdin rfl, after .bindDn rfl, he Variable.password (by decide)]
  simp only [Arguments.unstyled, Line.arguments, Arguments.ofPlaces, command, credentials,
    Place.value?_eq_lookup, before .config rfl, after .config rfl, before .server rfl,
    after .server rfl, he Variable.config (by decide), he Settings.Variable.serverUrl (by decide)]

/-- **The directory settings** do not depend on the style. -/
theorem map_ldap_settings_eq (ha : a.unstyled = a'.unstyled) (he : AgreeBesidesStyle env env')
    (hf : ∀ path, a.configFile = some path → (Settings.ofFile (file path)).map Settings.ldap =
      (Settings.ofFile (file' path)).map Settings.ldap) :
    (a.settings env file).map Settings.ldap = (a'.settings env' file').map Settings.ldap := by
  obtain ⟨-, config, server, -, -, -⟩ := Arguments.mk.inj ha
  have ofVariables : (Settings.ofVariables env).ldap = (Settings.ofVariables env').ldap := by
    simp only [Settings.ofVariables, he Settings.Variable.serverUrl (by decide),
      he Settings.Variable.bindDn (by decide), he Settings.Variable.startTls (by decide),
      he Settings.Variable.timeoutSeconds (by decide)]
  unfold Arguments.settings
  rw [← config, ← server]
  rcases hp : a.configFile with - | path
  · simp only [bind, Except.bind, Except.map, ofVariables]
  · have same := hf path hp
    rcases hb : Settings.ofFile (file path) with f | base <;>
      rcases hb' : Settings.ofFile (file' path) with f' | base' <;>
      rw [hb, hb'] at same
    · simpa only [bind, Except.bind, Except.map, hb, hb'] using same
    · cases same
    · cases same
    · have ldap : base.ldap = base'.ldap := Except.ok.inj same
      simp only [bind, Except.bind, Except.map, hb, hb', ldap]

/-! ## Two runs -/

/-- Two runs of `check` or `bind` that differ in style at most. Their arguments spell lines that are
the same but for parameters of style, their environments agree on the other variables, and a file
of settings gives both the same directory settings, or the same failure. -/
structure Restyled (w : Surroundings) (args : List String) (l : Line) (w' : Surroundings)
    (args' : List String) (l' : Line) : Prop where
  spelled : l.SpelledBy args
  valid : l.IsValid
  spelled' : l'.SpelledBy args'
  valid' : l'.IsValid
  acts : l.command ≠ .config
  line : l.unstyled = l'.unstyled
  environment : AgreeBesidesStyle w.environment w'.environment
  file : ∀ path, l.configFile? w.environment = some path →
    (Settings.ofFile (w.file path)).map Settings.ldap =
      (Settings.ofFile (w'.file path)).map Settings.ldap
  input : w.input = w'.input
  network : w.network = w'.network

namespace Restyled

variable (h : Restyled w args l w' args' l')

include h

theorem read : Arguments.read w.environment args = .ok (l.arguments w.environment) :=
  Arguments.read_eq_ok_iff.2 ⟨l, h.spelled, h.valid, rfl⟩

theorem read' : Arguments.read w'.environment args' = .ok (l'.arguments w'.environment) :=
  Arguments.read_eq_ok_iff.2 ⟨l', h.spelled', h.valid', rfl⟩

theorem task_ne : (l.arguments w.environment).task ≠ .config := by
  have acts := h.acts
  simp only [Line.arguments, Arguments.ofPlaces]
  rcases hc : l.command with - | - | -
  · simp
  · simp
  · exact absurd hc acts

/-- **The two runs have one session.** -/
theorem session_eq :
    (l.arguments w.environment).session w = (l'.arguments w'.environment).session w' := by
  have unstyled := unstyled_arguments_eq h.line h.environment
  have task : (l.arguments w.environment).task = (l'.arguments w'.environment).task :=
    (Arguments.mk.inj unstyled).1
  have same := map_ldap_settings_eq unstyled h.environment
    fun path hp => h.file path ((l.configFile_arguments _).symm.trans hp)
  unfold Arguments.session
  rcases hs : (l.arguments w.environment).settings w.environment w.file with f | s <;>
    rcases hs' : (l'.arguments w'.environment).settings w'.environment w'.file with f' | s' <;>
    rw [hs, hs'] at same
  · obtain rfl : f = f' := Except.error.inj same
    simp only [h.network]
  · cases same
  · cases same
  · have ldap : s.ldap = s'.ldap := Except.ok.inj same
    simp only [← task, ← h.input, ← h.network, perform_eq_of_ldap ldap h.task_ne]

/-- The answer shows no settings. -/
theorem answer_ne_settings (t : Settings) :
    ((l.arguments w.environment).session w).result ≠ .ok (.settings t) := by
  unfold Arguments.session
  rcases (l.arguments w.environment).settings w.environment w.file with f | s
  · simp
  · exact answer_perform_ne_settings h.task_ne _ _ t

end Restyled

/-- What is the same in two runs, and how they differ. -/
structure SameDeed (w : Surroundings) (args : List String) (a : Arguments) (w' : Surroundings)
    (args' : List String) (a' : Arguments) : Prop where
  status : (run w args).status = (run w' args').status
  /-- The server receives the same. -/
  network : (run w args).network = (run w' args').network
  /-- Where they fail, each tells the same report behind its own log. -/
  report : (run w args).status = failedStatus → ∃ trouble : Trouble,
    (a.session w).result = .error trouble ∧
      (run w args).diagnostics = a.log w ++ trouble.report ∧
      (run w' args').diagnostics = a'.log w' ++ trouble.report
  /-- Where they do not, they tell nothing but their logs. -/
  unreported : (run w args).status ≠ failedStatus →
    (run w args).diagnostics = a.log w ∧ (run w' args').diagnostics = a'.log w'
  /-- The output depends on its format and on whether it is silenced. -/
  output : a.output = a'.output → a.quiet = a'.quiet → (run w args).output = (run w' args').output
  /-- As text it is empty when it is silenced. -/
  silent : a.output = .text → a.quiet = true → (run w args).output = ""
  /-- As JSON it cannot be silenced. -/
  json : a.output = .json → a'.output = .json → (run w args).output = (run w' args').output
  /-- Where filter and level are the same, the logs tell the same notices and show the same events
  in the same order, each event once, in the format of each run. -/
  log : ∀ s s', a.settings w.environment w.file = .ok s →
    a'.settings w'.environment w'.file = .ok s' →
    w.environment filterVariable = w'.environment filterVariable →
    s.logging.level = s'.logging.level →
    ∀ filter notices,
      Log.Filter.choose (w.environment filterVariable) s.logging.level = (filter, notices) →
      LogTells (a.log w) notices ((a.session w).events.filter filter.shows) s.logging.isJson ∧
      LogTells (a'.log w') notices ((a.session w).events.filter filter.shows) s'.logging.isJson

theorem status_ne_of_answer {x : Session} {answer : Answer} (h : x.result = .ok answer) :
    x.status ≠ failedStatus := by
  simp only [Session.status, h]
  exact status_answer_ne answer

/-- **Style changes no deed.** Two runs of `check` or `bind` that differ in style do the same. All
arguments that are understood spell a valid line (`Arguments.read_eq_ok_iff`), so this is said of
all of them. -/
theorem same_deed_in_any_style (h : Restyled w args l w' args' l') :
    SameDeed w args (l.arguments w.environment) w' args' (l'.arguments w'.environment) := by
  have shown := run_eq_shown h.read
  have shown' := run_eq_shown h.read'
  rw [← h.session_eq] at shown'
  have coloured : isColoured w.environment = isColoured w'.environment := by
    rw [isColoured, isColoured, h.environment colourVariable (by decide)]
  exact {
    status := by rw [shown, shown']
    network := by rw [shown, shown']
    report := by
      intro failed
      rcases hr : ((l.arguments w.environment).session w).result with trouble | answer
      · refine ⟨trouble, rfl, ?_, ?_⟩
        · rw [shown, Session.report, hr]
        · rw [shown', Session.report, hr]
      · rw [shown] at failed
        exact absurd failed (status_ne_of_answer hr)
    unreported := by
      intro answered
      rcases hr : ((l.arguments w.environment).session w).result with trouble | answer
      · rw [shown, Session.status, hr] at answered
        exact absurd rfl answered
      · rw [shown, shown', Session.report, hr]
        exact ⟨String.append_empty, String.append_empty⟩
    output := by
      intro format quiet
      rw [shown, shown', format, quiet, coloured]
    silent := by
      intro text quiet
      rw [shown, text, quiet]
      exact output_of_quiet _ h.answer_ne_settings _
    json := by
      intro json json'
      rw [shown, shown', json, json', coloured]
      exact output_json ..
    log := by
      intro s s' hs hs' asked level filter notices chosen
      have told := logTells_log hs
      have told' := logTells_log hs'
      rw [← h.session_eq, ← asked, ← level] at told'
      rw [chosen] at told told'
      exact ⟨told, told'⟩ }

/-- Surroundings with all that a bind needs, and with the variables of filter and format. -/
def Surroundings.styled (asked format : Option String) : Surroundings :=
  { Surroundings.bare (.answers 49 "" "") with
    lookup := fun name =>
      if name = Settings.Variable.serverUrl then some "ldap://h"
      else if name = Settings.Variable.bindDn then some "cn=a"
      else if name = Variable.password then some "pw"
      else if name = filterVariable then asked
      else if name = Settings.Variable.logFormat then format
      else none }

/-- A line for a bind in silence, and with its answer as JSON. -/
def quietLine : Line := ⟨[(.quiet, ""), (.output, "json")], .bind, []⟩

theorem spelledBy_bare (c : Command) : Line.SpelledBy ⟨[], c, []⟩ ([] ++ c.word :: ([] ++ [])) :=
  .line .nil .nil .line

theorem spelledBy_quietLine : quietLine.SpelledBy ["-qojson", "bind"] := by
  have letters : Letters none "qojson".toList quietLine.before none :=
    .switches rfl rfl (.joined rfl rfl rfl)
  have word : Word none "-qojson".toList quietLine.before none := .short letters
  have before : Spells none none ["-qojson"] (quietLine.before ++ []) := .word word .nil
  have line : quietLine.SpelledBy (["-qojson"] ++ Command.bind.word :: ([] ++ [])) :=
    .line before .nil .line
  exact line

theorem restyled_quietLine :
    Restyled (.styled none none) ["bind"] ⟨[], .bind, []⟩
      (.styled (some "trace") (some "json")) ["-qojson", "bind"] quietLine where
  spelled := spelledBy_bare .bind
  valid := ⟨valid_nil, valid_nil⟩
  spelled' := spelledBy_quietLine
  valid' := ⟨⟨by decide, by decide, by decide⟩, valid_nil⟩
  acts := by decide
  line := rfl
  environment name h := by
    have others : name ≠ filterVariable ∧ name ≠ Settings.Variable.logFormat := by
      constructor <;> rintro rfl <;> exact h (by decide)
    have environment (asked format : Option String) :
        (Surroundings.styled asked format).environment =
          (Surroundings.styled asked format).lookup := rfl
    rw [environment, environment]
    simp only [Surroundings.styled, others.1, others.2, if_false]
  file path hp := by cases hp
  input := rfl
  network := rfl

theorem same_deed_in_any_style_of_quietLine :
    (run (.styled none none) ["bind"]).status = 1 ∧
    SameDeed (.styled none none) ["bind"]
      (Line.arguments ⟨[], .bind, []⟩ (Surroundings.styled none none).environment)
      (.styled (some "trace") (some "json")) ["-qojson", "bind"]
      (quietLine.arguments (Surroundings.styled (some "trace") (some "json")).environment) :=
  ⟨by decide +kernel, same_deed_in_any_style restyled_quietLine⟩

end Gatekeeper.CommandLine
