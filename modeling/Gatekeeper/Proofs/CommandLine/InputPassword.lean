import Gatekeeper.Proofs.CommandLine.Secrecy
import Gatekeeper.Proofs.CommandLine.Style
import Gatekeeper.Proofs.Text.FirstLine
import Gatekeeper.Proofs.Text.Utf8

/-!
# The password on the input

The password of a line that asks for the input is what the first line of the input carries
(`readsFirstLine_passwordLine`): none where there is no input, a failure where that line is no
text, and the text without its line end otherwise.

A task depends on its password and its input through the password that it gets from them
(`perform_eq_of_password?`). So a run whose password is on the input does what it would do with the
password given outright (`run_outright`); neither the password of the line or its variable nor what
stands behind the first line has a part in it. `password_on_input` puts this together, and says that
no other run looks at its input.
-/

namespace Gatekeeper.CommandLine

open Settings (FileEntry Lookup)
open Text (firstLine lineFeed)

variable {w w' : Surroundings} {args args' : List String} {a : Arguments} {l l' : Line}
  {s : Settings} {task task' : Task} {p : Option String}

/-! ## The first line -/

/-- The password is read from the first line of the input. -/
structure ReadsFirstLine (read : List UInt8 → Except Failure (Option String)) : Prop where
  absent_iff : ∀ b, read b = .ok none ↔ b = []
  error_iff : ∀ b, (∃ f, read b = .error f) ↔ ¬ Utf8.IsValid (firstLine b)
  /-- All of a line but its end is the password. -/
  carries : ∀ b cs, b ≠ [] → Utf8.encode cs = firstLine b →
    ∃ p, Text.Carries cs p ∧ read b = .ok (some (String.ofList p))
  /-- What stands behind the first line feed does not count. -/
  unread : ∀ line, lineFeed ∉ line → ∀ t t',
    read (line ++ lineFeed :: t) = read (line ++ lineFeed :: t')
  /-- A password of one line comes back, whichever end the line has. -/
  line : ∀ p : String, '\n' ∉ p.toList → p.toList.getLast? ≠ some '\r' → ∀ t,
    read (Utf8.encode (p.toList ++ ['\n']) ++ t) = .ok (some p) ∧
      read (Utf8.encode (p.toList ++ ['\r', '\n']) ++ t) = .ok (some p)

theorem passwordLine_of_ne_nil {b : List UInt8} (h : b ≠ []) :
    passwordLine b =
      match Utf8.decode? (firstLine b) with
      | some cs => .ok (some (String.ofList (Text.withoutLineEnd cs)))
      | none => .error .notText := by
  obtain ⟨rest, lines⟩ := Text.lines_eq_cons h
  unfold passwordLine
  split
  · rename_i empty
    rw [lines] at empty
    cases empty
  · rename_i line others whole
    obtain rfl : firstLine b = line := (List.cons.inj (lines.symm.trans whole)).1
    rfl

theorem passwordLine_of_encode {b : List UInt8} (h : b ≠ []) {cs p : List Char}
    (hb : Utf8.encode cs = firstLine b) (carries : Text.Carries cs p) :
    passwordLine b = .ok (some (String.ofList p)) := by
  rw [passwordLine_of_ne_nil h, ← hb, Utf8.decode?_encode]
  dsimp only
  rw [Text.carries_iff.1 carries]

/-- A line feed is in the bytes of a text where it is in the text. -/
theorem lineFeed_notMem_encode {cs : List Char} (h : '\n' ∉ cs) : lineFeed ∉ Utf8.encode cs :=
  fun hb => h ((Utf8.mem_encode_iff (c := '\n') (by decide)).1 hb)

/-- A text that is written as a line is read from it, whatever follows. -/
theorem passwordLine_line {cs p : List Char} (h : '\n' ∉ cs)
    (carries : Text.Carries (cs ++ ['\n']) p) (t : List UInt8) :
    passwordLine (Utf8.encode (cs ++ ['\n']) ++ t) = .ok (some (String.ofList p)) := by
  have bytes : Utf8.encode (cs ++ ['\n']) = Utf8.encode cs ++ [lineFeed] := Utf8.encode_append cs _
  have first : firstLine (Utf8.encode (cs ++ ['\n']) ++ t) = Utf8.encode (cs ++ ['\n']) := by
    rw [bytes, List.append_assoc, List.singleton_append,
      Text.firstLine_append (lineFeed_notMem_encode h)]
  refine passwordLine_of_encode ?_ first.symm carries
  rw [bytes]
  simp

/-- **The password on the input** is what the first line carries. -/
theorem readsFirstLine_passwordLine : ReadsFirstLine passwordLine where
  absent_iff b := by
    constructor
    · intro h
      by_cases hb : b = []
      · exact hb
      · rw [passwordLine_of_ne_nil hb] at h
        split at h <;> cases h
    · rintro rfl
      rfl
  error_iff b := by
    by_cases hb : b = []
    · subst hb
      refine iff_of_false ?_ (not_not_intro (Utf8.isValid_encode []))
      rintro ⟨f, hf⟩
      cases hf
    · rw [passwordLine_of_ne_nil hb, Utf8.isValid_iff_exists]
      cases Utf8.decode? (firstLine b) with
      | none => exact iff_of_true ⟨_, rfl⟩ (by simp)
      | some cs => exact iff_of_false (by simp) (not_not_intro ⟨cs, rfl⟩)
  carries b cs hb he := by
    have carries := Text.carries_withoutLineEnd cs
    exact ⟨_, carries, passwordLine_of_encode hb he carries⟩
  unread line h t t' := by
    rw [passwordLine_of_ne_nil (by simp), passwordLine_of_ne_nil (by simp),
      Text.firstLine_append h, Text.firstLine_append h]
  line p h hp t := by
    have returned : '\n' ∉ p.toList ++ ['\r'] := by simp [h]
    have two : p.toList ++ ['\r'] ++ ['\n'] = p.toList ++ ['\r', '\n'] := List.append_assoc ..
    have read := passwordLine_line h (Text.Carries.lf hp) t
    have read' := passwordLine_line returned (two ▸ Text.Carries.crlf p.toList) t
    rw [String.ofList_toList] at read read'
    rw [two] at read'
    exact ⟨read, read'⟩

/-! ## Tasks -/

/-- The password that a task gets from its credentials and the input. -/
def Task.password? : Task → List UInt8 → Except Failure (Option String)
  | check c, input | bind c, input => c.password? input
  | config, _ => .ok none

/-- The task with its password given outright. -/
def Task.outright (p : Option String) : Task → Task
  | check c => check { c with password := p, fromInput := false }
  | bind c => bind { c with password := p, fromInput := false }
  | config => config

theorem Task.password?_outright {b : List UInt8} (hp : task.password? b = .ok p)
    (b' : List UInt8) : (task.outright p).password? b' = .ok p := by
  cases task with
  | check c => rfl
  | bind c => rfl
  | config => exact hp

theorem Task.outright_outright (task : Task) (p q : Option String) :
    (task.outright p).outright q = task.outright q := by
  cases task <;> rfl

theorem Task.outright_masked (task : Task) (p : Option String) :
    task.masked.outright p = task.outright p := by
  cases task <;> rfl

/-- A task that has its password goes on as with that password given outright. -/
theorem perform_outright {b : List UInt8} (hp : task.password? b = .ok p) (s : Settings)
    (net : Directory.Network) : perform s b net task = perform s [] net (task.outright p) := by
  cases task with
  | check c =>
    have password : c.password? b = .ok p := hp
    simp only [perform, withPassword, password]
    rfl
  | bind c =>
    have password : c.password? b = .ok p := hp
    simp only [perform, withPassword, password]
    rfl
  | config => rfl

theorem perform_of_failure {b : List UInt8} {f : Failure} (hp : task.password? b = .error f)
    (s : Settings) (net : Directory.Network) :
    perform s b net task = .failed net "Failed to read password from stdin" f := by
  cases task with
  | check c =>
    have password : c.password? b = .error f := hp
    simp only [perform, withPassword, password]
  | bind c =>
    have password : c.password? b = .error f := hp
    simp only [perform, withPassword, password]
  | config => cases hp

/-- **A task depends on password and input** through the password that it gets. -/
theorem perform_eq_of_password? (same : task.outright none = task'.outright none)
    {b b' : List UInt8} (hp : task.password? b = task'.password? b') (s : Settings)
    (net : Directory.Network) : perform s b net task = perform s b' net task' := by
  rcases h : task.password? b with f | p
  · rw [perform_of_failure h, perform_of_failure (hp.symm.trans h)]
  · have outright : task.outright p = task'.outright p := by
      rw [← task.outright_outright none, same, task'.outright_outright]
    rw [perform_outright h, perform_outright (hp.symm.trans h), outright]

/-! ## Runs -/

/-- The arguments with the password given outright. -/
def Arguments.outright (a : Arguments) (p : Option String) : Arguments :=
  { a with task := a.task.outright p }

/-- Settings and style being the same, runs differ through the passwords of their tasks alone. -/
theorem Arguments.run_eq_of_password? (same : a.task.outright none = task'.outright none)
    {b b' : List UInt8} (hp : a.task.password? b = task'.password? b') (env : Lookup)
    (w : Surroundings) :
    a.run env { w with input := b } =
      ({ a with task := task' } : Arguments).run env { w with input := b' } := by
  have settings : ({ a with task := task' } : Arguments).settings env w.file =
    a.settings env w.file := rfl
  rcases hs : a.settings env w.file with f | s
  · simp only [Arguments.run, settings, hs]
  · simp only [Arguments.run, settings, hs, perform_eq_of_password? same hp]
    rfl

/-- **A run gets its password** from its line and the input, and does what it would do with that
password given outright. -/
theorem run_outright (h : Arguments.read w.environment args = .ok a) {b : List UInt8}
    (hp : a.task.password? b = .ok p) :
    run { w with input := b } args = (a.outright p).run w.environment w := by
  have read : Arguments.read ({ w with input := b } : Surroundings).environment args = .ok a := h
  have password : a.task.password? b = (a.task.outright p).password? w.input :=
    hp.trans (Task.password?_outright hp w.input).symm
  rw [run_eq read]
  exact Arguments.run_eq_of_password? (a.task.outright_outright p none).symm password _ w

/-- Inputs with one password make no difference. -/
theorem run_eq_of_password? (h : Arguments.read w.environment args = .ok a) {b b' : List UInt8}
    (hp : a.task.password? b = a.task.password? b') :
    run { w with input := b } args = run { w with input := b' } args := by
  have read : Arguments.read ({ w with input := b } : Surroundings).environment args = .ok a := h
  have read' : Arguments.read ({ w with input := b' } : Surroundings).environment args = .ok a := h
  rw [run_eq read, run_eq read']
  exact Arguments.run_eq_of_password? rfl hp _ w

/-- A run that cannot read its password fails, and nothing was sent. -/
theorem run_of_failure (h : Arguments.read w.environment args = .ok a) {b : List UInt8}
    {f : Failure} (hp : a.task.password? b = .error f) :
    (run { w with input := b } args).status = 1 ∧ (run { w with input := b } args).output = "" ∧
      (run { w with input := b } args).network = w.network := by
  have read : Arguments.read ({ w with input := b } : Surroundings).environment args = .ok a := h
  rcases hs : a.settings ({ w with input := b } : Surroundings).environment w.file with g | s
  · rw [run_eq read, Arguments.run, hs]
    exact ⟨rfl, rfl, rfl⟩
  · rw [run_eq_exit read hs, perform_of_failure hp]
    exact ⟨rfl, rfl, rfl⟩

/-! ## Lines -/

namespace Line

/-- The line asks for the password on the input. -/
def AsksInput (l : Line) : Prop := .passwordStdin ∈ l.after.map Prod.fst

/-- The line without the password that it gives. -/
def unpassworded (l : Line) : Line :=
  { l with after := l.after.filter fun g => g.1 ≠ .password }

theorem fromInput_iff (l : Line) (env : Lookup) (place : Option Command) :
    (Arguments.credentials env ⟨place, l.after, none⟩).fromInput = true ↔ l.AsksInput := by
  simp only [Arguments.credentials, Place.has, Place.value?_eq_lookup]
  rw [List.lookup_isSome_iff, AsksInput, List.mem_map]
  constructor
  · rintro ⟨g, given, own⟩
    exact ⟨g, given, (beq_iff_eq.1 own).symm⟩
  · rintro ⟨g, given, own⟩
    exact ⟨g, given, beq_iff_eq.2 own.symm⟩

/-- The password of a line that asks for the input is there, whatever the line or its variable
gives. -/
theorem password?_of_asksInput (spelled : l.SpelledBy args) (asks : l.AsksInput) (env : Lookup) :
    (l.arguments env).task.password? = passwordLine := by
  have fromInput := (l.fromInput_iff env (some l.command)).2 asks
  funext b
  obtain ⟨before, command, after⟩ := l
  cases command with
  | check => exact if_pos fromInput
  | bind => exact if_pos fromInput
  | config =>
    -- Beside `config` there is no such parameter.
    obtain ⟨⟨q, v⟩, given, rfl⟩ := List.mem_map.1 asks
    cases spelled with
    | line _ spelled =>
      have own := spelled.belong (fun p hp => by cases hp) _ given
      cases own

theorem asksInput_unpassworded (l : Line) : l.unpassworded.AsksInput ↔ l.AsksInput := by
  have other : Parameter.passwordStdin ≠ .password := by decide
  unfold AsksInput unpassworded
  simp only [List.mem_map, List.mem_filter, decide_eq_true_eq]
  constructor
  · rintro ⟨g, ⟨given, -⟩, own⟩
    exact ⟨g, given, own⟩
  · rintro ⟨g, given, own⟩
    exact ⟨g, ⟨given, own ▸ other⟩, own⟩

theorem readsInput_of_not_asksInput (asks : ¬ l.AsksInput) (env : Lookup) :
    (l.arguments env).task.readsInput = false := by
  have fromInput := (not_congr (l.fromInput_iff env (some l.command))).2 asks
  obtain ⟨before, command, after⟩ := l
  cases command with
  | check => exact Bool.eq_false_iff.2 fromInput
  | bind => exact Bool.eq_false_iff.2 fromInput
  | config => rfl

/-- Lines that differ in the password give the same arguments but for it. -/
theorem masked_arguments_eq {env env' : Lookup} (hl : l.unpassworded = l'.unpassworded)
    (he : AgreeBesidesPassword env env') :
    (l.arguments env).masked = (l'.arguments env').masked := by
  obtain ⟨before, command, filtered⟩ := Line.mk.inj hl
  have after (p : Parameter) (hp : p ≠ .password) : l.after.lookup p = l'.after.lookup p := by
    have kept : decide (p ≠ .password) = true := decide_eq_true hp
    rw [← lookup_filter (fun p => p ≠ .password) l.after kept, filtered,
      lookup_filter (fun p => p ≠ .password) l'.after kept]
  have other : (l.arguments env).masked =
      (Arguments.ofPlaces env ⟨none, l.before, none⟩ l.command
        ⟨some l.command, l'.after, none⟩).masked := by
    rw [arguments]
    cases l.command <;>
      simp only [Arguments.ofPlaces, Arguments.masked, Task.masked, Credentials.masked,
        Arguments.credentials, Place.has, Place.value?_eq_lookup, after .config (by decide),
        after .server (by decide), after .logLevel (by decide), after .output (by decide),
        after .quiet (by decide), after .passwordStdin (by decide), after .bindDn (by decide)]
  have same : l'.arguments env = Arguments.ofPlaces env ⟨none, l.before, none⟩ l.command
      ⟨some l.command, l'.after, none⟩ := by
    rw [arguments, before, command]
  rw [other, ← same, arguments, arguments]
  exact masked_ofPlaces_eq he _ _ _

end Line

/-! ## Two runs -/

/-- The runs differ in the given password at most: on the line, or in its variable. -/
structure Repassworded (w : Surroundings) (l : Line) (w' : Surroundings) (l' : Line) : Prop where
  line : l.unpassworded = l'.unpassworded
  environment : AgreeBesidesPassword w.environment w'.environment
  file : ∀ path, l.configFile? w.environment = some path → w.file path = w'.file path
  input : w.input = w'.input
  network : w.network = w'.network

theorem settings_congr_file {env : Lookup} {file file' : String → FileEntry}
    (h : ∀ path, a.configFile = some path → file path = file' path) :
    a.settings env file = a.settings env file' := by
  unfold Arguments.settings
  rcases hp : a.configFile with - | path
  · rfl
  · dsimp only
    rw [h path hp]

theorem Repassworded.password?_eq (h : Repassworded w l w' l') (spelled : l.SpelledBy args)
    (asks : l.AsksInput) (spelled' : l'.SpelledBy args') :
    (l'.arguments w'.environment).task.password? =
      (l.arguments w.environment).task.password? := by
  have asks' : l'.AsksInput := by
    rw [← Line.asksInput_unpassworded, ← h.line, Line.asksInput_unpassworded]
    exact asks
  rw [Line.password?_of_asksInput spelled asks, Line.password?_of_asksInput spelled' asks']

/-- **The given password has no part** in a run whose password is on the input. -/
theorem Repassworded.run_eq (h : Repassworded w l w' l') (spelled : l.SpelledBy args)
    (valid : l.IsValid) (asks : l.AsksInput) (spelled' : l'.SpelledBy args')
    (valid' : l'.IsValid) : run w' args' = run w args := by
  have read : Arguments.read w.environment args = .ok (l.arguments w.environment) :=
    Arguments.read_eq_ok_iff.2 ⟨l, spelled, valid, rfl⟩
  have read' : Arguments.read w'.environment args' = .ok (l'.arguments w'.environment) :=
    Arguments.read_eq_ok_iff.2 ⟨l', spelled', valid', rfl⟩
  have masked := Line.masked_arguments_eq h.line h.environment
  have files : (l.arguments w.environment).settings w.environment w.file =
      (l.arguments w.environment).settings w.environment w'.file :=
    settings_congr_file fun path hp => h.file path ((l.configFile_arguments _).symm.trans hp)
  have settings := files.trans (settings_eq h.environment masked w'.file)
  have task : (l.arguments w.environment).task.outright none =
      (l'.arguments w'.environment).task.outright none := by
    rw [← Task.outright_masked, (Arguments.mk.inj masked).1, Task.outright_masked]
  have password : (l.arguments w.environment).task.password? w.input =
      (l'.arguments w'.environment).task.password? w'.input := by
    rw [h.password?_eq spelled asks spelled', h.input]
  rcases hs : (l.arguments w.environment).settings w.environment w.file with f | s
  · simp only [run, read, read', Arguments.run, ← settings, hs, h.network]
  · rw [run_eq_exit read hs, run_eq_exit read' (settings.symm.trans hs), ← h.network,
      perform_eq_of_password? task password, exit_eq_of_masked masked h.environment]

/-! ## The password of a run -/

/-- The password of a run is on its input. -/
structure PasswordOnInput (w : Surroundings) (args : List String) (l : Line) : Prop where
  reads : ReadsFirstLine (l.arguments w.environment).task.password?
  /-- The run does what it would do with that password given outright. -/
  used : ∀ b p, (l.arguments w.environment).task.password? b = .ok p →
    run { w with input := b } args = ((l.arguments w.environment).outright p).run w.environment w
  /-- Where the first line is no text the run fails, and nothing was sent. -/
  fails : ∀ b, ¬ Utf8.IsValid (firstLine b) →
    (run { w with input := b } args).status = 1 ∧ (run { w with input := b } args).output = "" ∧
      (run { w with input := b } args).network = w.network
  /-- What the line and its variable give as a password has no part in it. -/
  ignored : ∀ w' args' l', l'.SpelledBy args' → l'.IsValid → Repassworded w l w' l' →
    (l'.arguments w'.environment).task.password? = (l.arguments w.environment).task.password? ∧
      run w' args' = run w args
  /-- What stands behind the first line feed has no part in it either. -/
  unread : ∀ line, lineFeed ∉ line → ∀ t t',
    run { w with input := line ++ lineFeed :: t } args =
      run { w with input := line ++ lineFeed :: t' } args

theorem passwordOnInput_of_asksInput (spelled : l.SpelledBy args) (valid : l.IsValid)
    (asks : l.AsksInput) (w : Surroundings) : PasswordOnInput w args l := by
  have read : Arguments.read w.environment args = .ok (l.arguments w.environment) :=
    Arguments.read_eq_ok_iff.2 ⟨l, spelled, valid, rfl⟩
  have reads : ReadsFirstLine (l.arguments w.environment).task.password? := by
    rw [Line.password?_of_asksInput spelled asks]
    exact readsFirstLine_passwordLine
  exact {
    reads := reads
    used := fun b p hp => run_outright read hp
    fails := by
      intro b invalid
      obtain ⟨f, hf⟩ := (reads.error_iff b).2 invalid
      exact run_of_failure read hf
    ignored := fun w' args' l' spelled' valid' h =>
      ⟨h.password?_eq spelled asks spelled', h.run_eq spelled valid asks spelled' valid'⟩
    unread := fun line h t t' => run_eq_of_password? read (reads.unread line h t t') }

/-- **The password on the input.** A line that asks for it gets its password from the first line of
the input and from nowhere else. Any other line, and arguments that spell none, leave the input
alone. -/
theorem password_on_input (w : Surroundings) (args : List String) :
    (∀ l : Line, l.SpelledBy args → l.IsValid → l.AsksInput → PasswordOnInput w args l) ∧
    (∀ l : Line, l.SpelledBy args → l.IsValid → ¬ l.AsksInput →
      ∀ b, run { w with input := b } args = run w args) ∧
    ((∀ l : Line, l.SpelledBy args → ¬ l.IsValid) →
      ∀ b, run { w with input := b } args = run w args) := by
  refine ⟨fun l spelled valid asks => passwordOnInput_of_asksInput spelled valid asks w, ?_, ?_⟩
  · intro l spelled valid asks b
    have read : Arguments.read w.environment args = .ok (l.arguments w.environment) :=
      Arguments.read_eq_ok_iff.2 ⟨l, spelled, valid, rfl⟩
    refine run_of_unread ?_ b
    simp only [readsInput, read, Line.readsInput_of_not_asksInput asks]
    split <;> rfl
  · intro none b
    refine run_of_unread ?_ b
    rcases read : Arguments.read w.environment args with halt | a
    · simp only [readsInput, read]
    · obtain ⟨l, spelled, valid, -⟩ := Arguments.read_eq_ok_iff.1 read
      exact absurd valid (none l spelled)

/-- A line that has its password on the input. -/
def inputLine : Line := ⟨[], .check, [(.passwordStdin, "")]⟩

theorem spelledBy_inputLine : inputLine.SpelledBy ["check", "--password-stdin"] := by
  have word : Word (some .check) "--password-stdin".toList inputLine.after none :=
    .long (.switch (p := .passwordStdin) rfl rfl)
  have after : Spells (some .check) none ["--password-stdin"] (inputLine.after ++ []) :=
    .word word .nil
  have line : inputLine.SpelledBy ([] ++ Command.check.word :: (["--password-stdin"] ++ [])) :=
    .line .nil after .line
  exact line

/-- The blank in front is part of the password, the line end is not, and no byte behind it counts,
not even one that no text has. -/
theorem password_on_input_of_inputLine :
    PasswordOnInput (.bare (.answers 0 "" "")) ["check", "--password-stdin"] inputLine ∧
    run { Surroundings.bare (.answers 0 "" "") with
      input := Utf8.encode (" pw".toList ++ ['\r', '\n']) ++ [0xff] }
        ["check", "--password-stdin"] =
      ((inputLine.arguments fun _ => none).outright (some " pw")).run
        (fun _ => none) (.bare (.answers 0 "" "")) := by
  have valid : inputLine.IsValid := ⟨valid_nil, by decide, by decide, by decide⟩
  have asks : inputLine.AsksInput := List.mem_singleton_self _
  have onInput := (password_on_input (.bare (.answers 0 "" ""))
    ["check", "--password-stdin"]).1 inputLine spelledBy_inputLine valid asks
  have read := (onInput.reads.line " pw" (by decide) (by decide) [0xff]).2
  exact ⟨onInput, onInput.used _ _ read⟩

end Gatekeeper.CommandLine
