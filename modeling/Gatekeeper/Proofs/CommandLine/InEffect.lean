import Gatekeeper.Proofs.CommandLine.Line
import Gatekeeper.Proofs.CommandLine.Shown

/-!
# Settings in effect

Which settings a run works with, told from the line that its arguments spell, its environment and
the files. A parameter counts on either side of the command, and before its variable
(`Line.value?`). The settings are those of the file that the line or its variable names, or else of
the variables, and server and log level of the line are put over them (`Line.settings`).

A run that has its settings shows them or acts under them (`InEffect`). A run whose file gives no
settings stops before it does anything (`Stops`). Where there is a file, the variables of the other
settings have no say (`run_eq_of_agree`). `settings_in_effect` puts this together.
-/

namespace Gatekeeper.CommandLine

open Settings (FileEntry Lookup)

variable {env env' : Lookup} {w w' : Surroundings} {args : List String} {a : Arguments} {l : Line}
  {s : Settings} {f : Failure} {path : String}

/-! ## What a line asks for -/

theorem Place.value?_eq_lookup (place : Option Command) (gs : List (Parameter × String))
    (p : Parameter) : Place.value? ⟨place, gs, none⟩ p = gs.lookup p := by
  induction gs with
  | nil => rfl
  | cons g gs ih =>
    obtain ⟨q, v⟩ := g
    by_cases h : q = p
    · simp [value?, h]
    · have other : (p == q) = false := beq_false_of_ne (Ne.symm h)
      rw [List.lookup_cons, other, ← ih]
      simp [value?, h]

/-- What is left out beside a parameter does not change its value. -/
theorem lookup_filter (keep : Parameter → Bool) (gs : List (Parameter × String)) {p : Parameter}
    (hp : keep p = true) : (gs.filter fun g => keep g.1).lookup p = gs.lookup p := by
  induction gs with
  | nil => rfl
  | cons g gs ih =>
    obtain ⟨q, v⟩ := g
    by_cases hq : p = q
    · subst hq
      simp only [List.filter_cons, hp, if_true, List.lookup_cons_self]
    · have other : (p == q) = false := beq_false_of_ne hq
      rcases hk : keep q with - | -
      · simp only [List.filter_cons, hk, List.lookup_cons, other, ih, Bool.false_eq_true, if_false]
      · simp only [List.filter_cons, hk, List.lookup_cons, other, ih, if_true]

namespace Line

/-- The value that a line gives a parameter: the one after the command, or else the one before. -/
def value? (l : Line) (p : Parameter) : Option String := l.after.lookup p <|> l.before.lookup p

/-- The file that settings are to be read from. -/
def configFile? (l : Line) (env : Lookup) : Option String :=
  l.value? .config <|> env Variable.config

/-- The settings with the server and the log level that are asked for. -/
def settings (l : Line) (env : Lookup) (base : Settings) : Settings where
  ldap := { base.ldap with
    serverUrl := (l.value? .server <|> env Settings.Variable.serverUrl).getD base.ldap.serverUrl }
  logging := { base.logging with
    level := (l.value? .logLevel <|> env Settings.Variable.logLevel).getD base.logging.level }

theorem configFile_arguments (l : Line) (env : Lookup) :
    (l.arguments env).configFile = l.configFile? env := by
  simp only [arguments, Arguments.ofPlaces, Place.value?_eq_lookup, configFile?, value?]

/-- The settings of a line are a base with what is asked for put over it. -/
theorem settings_eq (l : Line) (env : Lookup) (base : Settings) :
    l.settings env base = {
      ldap := { base.ldap with
        serverUrl := (l.arguments env).server.getD base.ldap.serverUrl }
      logging := { base.logging with
        level := (l.arguments env).logLevel.getD base.logging.level } } := by
  simp only [settings, arguments, Arguments.ofPlaces, Place.value?_eq_lookup, value?]

theorem settings_of_file {file : String → FileEntry} (hp : l.configFile? env = some path) :
    (l.arguments env).settings env file = (Settings.ofFile (file path)).map (l.settings env) := by
  rw [Arguments.settings, configFile_arguments, hp]
  dsimp only
  rcases Settings.ofFile (file path) with f | base
  · rfl
  · rw [Except.map, settings_eq]
    rfl

theorem settings_of_variables {file : String → FileEntry} (hp : l.configFile? env = none) :
    (l.arguments env).settings env file = .ok (l.settings env (Settings.ofVariables env)) := by
  rw [Arguments.settings, configFile_arguments, hp, settings_eq]
  rfl

end Line

/-! ## Runs -/

theorem perform_of_unread {task : Task} (h : task.readsInput = false) (s : Settings)
    (input input' : List UInt8) (net : Directory.Network) :
    perform s input net task = perform s input' net task := by
  have password {c : Credentials} (hc : c.fromInput = false) :
      c.password? input = c.password? input' := by
    simp [Credentials.password?, hc]
  cases task with
  | check c => simp only [perform, withPassword, password h]
  | bind c => simp only [perform, withPassword, password h]
  | config => rfl

/-- A run that does not read its input is the same whatever that is. -/
theorem run_of_unread (h : readsInput w args = false) (input : List UInt8) :
    run { w with input := input } args = run w args := by
  have environment : ({ w with input := input } : Surroundings).environment = w.environment := rfl
  unfold readsInput at h
  rcases hr : Arguments.read w.environment args with halt | a
  · simp only [run, environment, hr]
  · rcases hs : a.settings w.environment w.file with f | s
    · simp only [run, environment, hr, Arguments.run, hs]
    · simp only [hr, hs] at h
      simp only [run, environment, hr, Arguments.run, hs, perform_of_unread h s input w.input]

/-- The settings are in effect in a run: `config` shows them, in a text that is read back as them,
and every task is done under them. -/
structure InEffect (w : Surroundings) (args : List String) (a : Arguments) (s : Settings) :
    Prop where
  settings : a.settings w.environment w.file = .ok s
  run : run w args = (perform s w.input w.network a.task).exit s a w.environment
  shown : a.task = .config →
    (CommandLine.run w args).status = 0 ∧
      (CommandLine.run w args).output = shownSettings a.output s ∧
      ReadsBack a.output (CommandLine.run w args).output s

theorem inEffect_of_settings (h : Arguments.read w.environment args = .ok a)
    (hs : a.settings w.environment w.file = .ok s) : InEffect w args a s where
  settings := hs
  run := run_eq_exit h hs
  shown ht := by
    obtain ⟨status, output, -⟩ := run_of_config h ht hs
    exact ⟨status, output, output ▸ readsBack_shownSettings a.output s⟩

/-- The run stops with a failure. The input was not read, whatever there is of it; there is no
output, and nothing was sent. -/
structure Stops (w : Surroundings) (args : List String) (f : Failure) : Prop where
  unread : readsInput w args = false
  run : ∀ input, run { w with input := input } args =
    ⟨1, "", Trouble.report ⟨none, f⟩, w.network⟩

theorem stops_of_settings (h : Arguments.read w.environment args = .ok a)
    (hs : a.settings w.environment w.file = .error f) : Stops w args f := by
  have unread : readsInput w args = false := by simp only [readsInput, h, hs]
  refine ⟨unread, fun input => ?_⟩
  rw [run_of_unread unread]
  simp only [run, h, Arguments.run, hs]
  rfl

/-- The surroundings agree on all that counts for settings from a file: on the file, on the input,
on the network, and on every variable but four. -/
structure AgreeFor (path : String) (w w' : Surroundings) : Prop where
  environment : ∀ name, name ∉ [Settings.Variable.bindDn, Settings.Variable.startTls,
    Settings.Variable.timeoutSeconds, Settings.Variable.logFormat] →
    w.environment name = w'.environment name
  file : w.file path = w'.file path
  input : w.input = w'.input
  network : w.network = w'.network

/-- Where settings come from a file, those four variables have no effect. -/
theorem run_eq_of_agree (h : Arguments.read w.environment args = .ok a)
    (hp : a.configFile = some path) (agree : AgreeFor path w w') : run w' args = run w args := by
  have same := agree.environment
  obtain ⟨l, spelled, valid, rfl⟩ := Arguments.read_eq_ok_iff.1 h
  have arguments : l.arguments w.environment = l.arguments w'.environment := by
    unfold Line.arguments Arguments.ofPlaces Arguments.credentials
    rw [same Variable.config (by decide), same Variable.password (by decide),
      same Settings.Variable.serverUrl (by decide), same Settings.Variable.logLevel (by decide)]
  have h' : Arguments.read w'.environment args = .ok (l.arguments w.environment) :=
    Arguments.read_eq_ok_iff.2 ⟨l, spelled, valid, arguments⟩
  have settings : (l.arguments w.environment).settings w.environment w.file =
      (l.arguments w.environment).settings w'.environment w'.file := by
    simp only [Arguments.settings, hp, agree.file]
  rcases hs : (l.arguments w.environment).settings w.environment w.file with f | s
  · simp only [run, h, h', Arguments.run, ← settings, hs, agree.network]
  · rw [run_eq_exit h hs, run_eq_exit h' (settings ▸ hs)]
    have filter := same filterVariable (by decide)
    have coloured : isColoured w.environment = isColoured w'.environment := by
      rw [isColoured, isColoured, same colourVariable (by decide)]
    simp only [Session.exit, filter, coloured, agree.input, agree.network]

/-! ## The settings of a run -/

/-- A file of variables changes none that the process has. -/
theorem Surroundings.environment_of_lookup {name value : String}
    (h : w.lookup name = some value) : w.environment name = some value := by
  unfold environment VariableFile.complete
  rcases w.file variableFile with bytes | number
  · exact VariableFile.apply_of_isSome h _
  · exact h

/-- What settings a run works with, when its arguments spell a line. -/
structure Governed (w : Surroundings) (args : List String) (a : Arguments) (l : Line) : Prop where
  /-- The environment is that of the process. A file only adds to it. -/
  kept : ∀ name value, w.lookup name = some value → w.environment name = some value
  read : a = l.arguments w.environment
  /-- Settings come from the file, where one is named. -/
  ofFile : ∀ path, l.configFile? w.environment = some path →
    ∀ base, Settings.ofFile (w.file path) = .ok base →
      InEffect w args a (l.settings w.environment base)
  /-- Where that fails, so does the run. -/
  stops : ∀ path, l.configFile? w.environment = some path →
    ∀ f, Settings.ofFile (w.file path) = .error f → Stops w args f
  /-- Either way the variables of the other settings have no say. -/
  agree : ∀ path, l.configFile? w.environment = some path →
    ∀ w', AgreeFor path w w' → run w' args = run w args
  /-- Where no file is named, the settings come from the variables. -/
  ofVariables : l.configFile? w.environment = none →
    InEffect w args a (l.settings w.environment (Settings.ofVariables w.environment))

/-- **The settings in effect.** A command line that is understood spells a line, and whatever line
it spells tells the settings of the run. -/
theorem settings_in_effect (h : Arguments.read w.environment args = .ok a) :
    (∃ l : Line, l.SpelledBy args ∧ l.IsValid) ∧
      ∀ l : Line, l.SpelledBy args → l.IsValid → Governed w args a l := by
  constructor
  · obtain ⟨l, spelled, valid, -⟩ := Arguments.read_eq_ok_iff.1 h
    exact ⟨l, spelled, valid⟩
  · intro l spelled valid
    have line : Arguments.read w.environment args = .ok (l.arguments w.environment) :=
      Arguments.read_eq_ok_iff.2 ⟨l, spelled, valid, rfl⟩
    obtain rfl : a = l.arguments w.environment := Except.ok.inj (h.symm.trans line)
    refine ⟨?_, rfl, ?_, ?_, ?_, ?_⟩
    · exact fun name value => Surroundings.environment_of_lookup
    · intro path hp base hb
      exact inEffect_of_settings h (by rw [Line.settings_of_file hp, hb]; rfl)
    · intro path hp f hf
      exact stops_of_settings h (by rw [Line.settings_of_file hp, hf]; rfl)
    · intro path hp w' agree
      exact run_eq_of_agree h ((l.configFile_arguments _).trans hp) agree
    · intro hp
      exact inEffect_of_settings h (Line.settings_of_variables hp)

/-- A command line with parameters on both sides of its command. -/
def bothSides : List String := ["--server=ldap://a", "config", "--log-level", "debug"]

/-- A command line that names a file and has its password on the input. -/
def absentFile : List String := ["check", "--password-stdin", "-qcabsent.toml"]

theorem settings_in_effect_on_both_sides :
    InEffect (.bare (.answers 0 "" "")) bothSides
      ⟨.config, none, some "ldap://a", some "debug", .text, false⟩
      { ldap := { serverUrl := "ldap://a" }, logging := { level := "debug" } } ∧
    Stops (.bare (.answers 0 "" "")) absentFile (.io "No such file or directory (os error 2)") := by
  constructor
  · have read : Arguments.read (Surroundings.bare (.answers 0 "" "")).environment bothSides =
        .ok ⟨.config, none, some "ldap://a", some "debug", .text, false⟩ := rfl
    obtain ⟨⟨l, spelled, valid⟩, governed⟩ := settings_in_effect read
    have line := governed l spelled valid
    have noFile : l.configFile? (Surroundings.bare (.answers 0 "" "")).environment = none := by
      rw [← Line.configFile_arguments, ← line.read]
    have settings := line.ofVariables noFile
    rw [Line.settings_eq, ← line.read] at settings
    exact settings
  · have read : Arguments.read (Surroundings.bare (.answers 0 "" "")).environment absentFile =
        .ok ⟨.check ⟨none, true, none⟩, some "absent.toml", none, none, .text, true⟩ := rfl
    obtain ⟨⟨l, spelled, valid⟩, governed⟩ := settings_in_effect read
    have line := governed l spelled valid
    have file : l.configFile? (Surroundings.bare (.answers 0 "" "")).environment =
        some "absent.toml" := by
      rw [← Line.configFile_arguments, ← line.read]
    exact line.stops _ file _ rfl

end Gatekeeper.CommandLine
