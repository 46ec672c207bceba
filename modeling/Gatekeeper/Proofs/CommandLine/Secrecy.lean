import Gatekeeper.Proofs.CommandLine.BindRun
import Gatekeeper.Proofs.Credential.Secrecy

/-!
# Runs that differ in the password

Two processes whose surroundings differ in the password alone (`Twins`), and whose performed check
gives one verdict (`judged?`), leave the same: the same status, output and diagnostics, and networks
on which the requests differ in the password at most (`masked_run_eq`).

The proof follows a run. The password is nothing but one part of the arguments that are read
(`masked_read_eq`); the settings do not depend on it (`settings_eq`); the directory is blind to it
(`Dialer.blind`), and so is each task but for its verdict (`masked_perform_eq`); and the exit is
made from the parts that agree (`masked_exit_eq`).
-/

namespace Gatekeeper

open Credential (Attempt Blind Cleared Traced Verdict callsOf guardedAll scripted)
open Settings (FileEntry Lookup)

/-! ## The directory -/

namespace Directory

/-- The request without its password. -/
def Request.masked : Request → Request
  | simpleBind version bindDn _ => simpleBind version bindDn ""
  | extended oid => extended oid

/-- The network without the password in what was received. -/
def Network.masked (net : Network) : Network := ⟨net.server, net.request.map Request.masked⟩

theorem bind_masked (session : Session) (timeout : UInt64) (dn p p' : String) {net net' : Network}
    (h : net.masked = net'.masked) :
    (bind session timeout dn p net).1 = (bind session timeout dn p' net').1 ∧
      (bind session timeout dn p net).2.masked = (bind session timeout dn p' net').2.masked := by
  have server : net.server = net'.server := (Network.mk.inj h).1
  unfold bind
  rw [← server]
  split
  · exact ⟨rfl, h⟩
  · exact ⟨rfl, h⟩
  · cases session <;> exact ⟨rfl, rfl⟩

/-- **The dialer** shows a password in the bind alone. -/
theorem Dialer.blind (d : Dialer) : Blind Network.masked d.binder := by
  rintro ⟨server, dn, p, hc⟩ ⟨server', dn', p', hd⟩ target net net' h
  obtain ⟨rfl, rfl⟩ := Prod.mk.inj target
  obtain ⟨result, world⟩ := bind_masked d.session d.timeout dn p p' h
  rcases hu : Url.parse (d.url server).toList with fault | u
  · simp only [binder, hu, Traced.seen, h, otherServerEvent]
  · simp only [binder, hu, Traced.seen, result, world, otherServerEvent]

end Directory

namespace CommandLine

open Directory (Dialer Network)

/-! ## The arguments -/

/-- The credentials without the password that was given. -/
def Credentials.masked (c : Credentials) : Credentials := { c with password := none }

/-- The task without the password that was given. -/
def Task.masked : Task → Task
  | check c => check c.masked
  | bind c => bind c.masked
  | config => config

/-- The arguments without the password that was given. -/
def Arguments.masked (a : Arguments) : Arguments := { a with task := a.task.masked }

/-- The environments differ in the variable of the password alone. -/
def AgreeBesidesPassword (env env' : Lookup) : Prop :=
  ∀ name, name ≠ Variable.password → env name = env' name

variable {env env' : Lookup}

theorem masked_ofPlaces_eq (h : AgreeBesidesPassword env env') (before after : Place)
    (c : Command) :
    (Arguments.ofPlaces env before c after).masked =
      (Arguments.ofPlaces env' before c after).masked := by
  have config := h Variable.config (by decide)
  have server := h Settings.Variable.serverUrl (by decide)
  have level := h Settings.Variable.logLevel (by decide)
  cases c with
  | check => simp only [Arguments.ofPlaces, Arguments.masked, Task.masked, Credentials.masked,
      Arguments.credentials, config, server, level]
  | bind => simp only [Arguments.ofPlaces, Arguments.masked, Task.masked, Credentials.masked,
      Arguments.credentials, config, server, level]
  | config => simp only [Arguments.ofPlaces, Arguments.masked, Task.masked, config, server, level]

theorem all_sharedVariables_eq (h : AgreeBesidesPassword env env') :
    (Arguments.sharedVariables.all fun v => (env v).isNone) =
      Arguments.sharedVariables.all fun v => (env' v).isNone := by
  have config := h Variable.config (by decide)
  have server := h Settings.Variable.serverUrl (by decide)
  have level := h Settings.Variable.logLevel (by decide)
  simp only [Arguments.sharedVariables, List.all_cons, config, server, level, List.all_nil]

/-- **The command line** is read the same but for the password. -/
theorem masked_read_eq (h : AgreeBesidesPassword env env') (args : List String) :
    (Arguments.read env args).map Arguments.masked =
      (Arguments.read env' args).map Arguments.masked := by
  unfold Arguments.read
  -- The places are read without the environment, which only the last step looks at.
  rcases ({ command := none } : Place).read args with halt | ⟨before, turn⟩
  · rfl
  · rcases turn with - | ⟨c | -, rest⟩
    · simp only [bind, Except.bind, all_sharedVariables_eq h]
    · simp only [bind, Except.bind]
      rcases ({ command := some c } : Place).read rest with halt | ⟨after, turn⟩
      · rfl
      · dsimp only
        rcases after.settle with halt | after
        · rfl
        · dsimp only
          rcases before.settle with halt | before
          · rfl
          · exact congrArg Except.ok (masked_ofPlaces_eq h before after c)
    · rfl

/-- The settings do not depend on the password. -/
theorem settings_eq (h : AgreeBesidesPassword env env') {a a' : Arguments}
    (ha : a.masked = a'.masked) (file : String → FileEntry) :
    a.settings env file = a'.settings env' file := by
  obtain ⟨-, config, server, level, -, -⟩ := Arguments.mk.inj ha
  have ofVariables : Settings.ofVariables env = Settings.ofVariables env' := by
    simp only [Settings.ofVariables, h Settings.Variable.serverUrl (by decide),
      h Settings.Variable.bindDn (by decide), h Settings.Variable.startTls (by decide),
      h Settings.Variable.timeoutSeconds (by decide), h Settings.Variable.logLevel (by decide),
      h Settings.Variable.logFormat (by decide)]
  simp only [Arguments.settings, config, server, level, ofVariables]

/-! ## The password -/

/-- The first line of the input, where there is one, is text. -/
def FirstLineIsText (input : List UInt8) : Prop :=
  ∀ line rest, Text.lines input = line :: rest → (Utf8.decode? line).isSome = true

/-- The inputs are one, or both begin with a line of text. -/
def AgreeBesidesFirstLine (input input' : List UInt8) : Prop :=
  input = input' ∨ FirstLineIsText input ∧ FirstLineIsText input'

variable {c c' : Credentials} {input input' : List UInt8}

theorem exists_passwordLine (h : FirstLineIsText input) : ∃ p, passwordLine input = .ok p := by
  rcases hl : Text.lines input with - | ⟨line, rest⟩
  · exact ⟨none, by rw [passwordLine, hl]⟩
  · obtain ⟨cs, hd⟩ := Option.isSome_iff_exists.1 (h line rest hl)
    exact ⟨some (String.ofList (Text.withoutLineEnd cs)), by simp only [passwordLine, hl, hd]⟩

/-- Either both passwords are read, or there is one failure. -/
theorem password?_cases (hc : c.masked = c'.masked) (hi : AgreeBesidesFirstLine input input') :
    (∃ p p', c.password? input = .ok p ∧ c'.password? input' = .ok p') ∨
      ∃ f, c.password? input = .error f ∧ c'.password? input' = .error f := by
  obtain ⟨-, source, -⟩ := Credentials.mk.inj hc
  unfold Credentials.password?
  rw [← source]
  by_cases h : c.fromInput = true
  · simp only [if_pos h]
    rcases hi with rfl | ⟨ht, ht'⟩
    · rcases passwordLine input with f | p
      · exact Or.inr ⟨f, rfl, rfl⟩
      · exact Or.inl ⟨p, p, rfl, rfl⟩
    · obtain ⟨p, hp⟩ := exists_passwordLine ht
      obtain ⟨p', hp'⟩ := exists_passwordLine ht'
      exact Or.inl ⟨p, p', hp, hp'⟩
  · simp only [if_neg h]
    exact Or.inl ⟨_, _, rfl, rfl⟩

/-! ## Tasks -/

/-- The verdict of the check that a task performs, where it gets that far. -/
def Task.judged? (s : Settings) (input : List UInt8) : Task → Option Verdict
  | check c => (c.password? input).toOption.map fun p => checkVerdict s p c.bindDn
  | bind c =>
    match s.ldap.validate with
    | .ok () => (c.password? input).toOption.map (c.verdict s)
    | .error _ => none
  | config => none

/-- The session without the password in what was received. -/
def Session.masked (x : Session) : Session := { x with network := x.network.masked }

variable {s : Settings} {p p' : Option String} {net net' : Network}

theorem masked_performBind_eq {dn : Option String} {server : String}
    (hv : s.ldap.validate = .ok () →
      Attempt.verdict ⟨server, dn.getD s.ldap.bindDn, p⟩ =
        Attempt.verdict ⟨server, dn.getD s.ldap.bindDn, p'⟩)
    (hn : net.masked = net'.masked) :
    (performBind s p dn net).masked = (performBind s p' dn net').masked := by
  unfold performBind
  rcases h : s.ldap.validate with f | u
  · simp only [Session.masked, Session.failed, hn]
  · dsimp only
    rcases s.ldap.address with f | address
    · simp only [Session.masked, hn]
    · have outline : Attempt.outline ⟨address, dn.getD s.ldap.bindDn, p⟩ =
          Attempt.outline ⟨address, dn.getD s.ldap.bindDn, p'⟩ := by
        rw [Attempt.outline, Attempt.outline, Attempt.verdict_of_server address server, hv h,
          Attempt.verdict_of_server server address]
      have seen := Credential.guarded_blind (Dialer.blind (Dialer.ofSettings s.ldap)) outline hn
      obtain ⟨result, events, world⟩ := Traced.mk.inj seen
      simp only [Session.masked, result, events, world]

/-- **A task** shows the password by its verdict alone. -/
theorem masked_perform_eq {task task' : Task} (ht : task.masked = task'.masked)
    (hi : AgreeBesidesFirstLine input input') (hn : net.masked = net'.masked)
    (hv : ∀ v ∈ task.judged? s input, ∀ v' ∈ task'.judged? s input', v = v') :
    (perform s input net task).masked = (perform s input' net' task').masked := by
  cases task with
  | check c =>
    cases task' with
    | check c' =>
      have hc := Task.check.inj ht
      rcases password?_cases hc hi with ⟨p, p', hp, hp'⟩ | ⟨f, hp, hp'⟩
      · have verdict := hv _ (by rw [Task.judged?, hp]; rfl) _ (by rw [Task.judged?, hp']; rfl)
        simp only [perform, withPassword, hp, hp', Session.masked, verdict, hn]
      · simp only [perform, withPassword, hp, hp', Session.failed, Session.masked, hn]
    | bind c' => cases ht
    | config => cases ht
  | bind c =>
    cases task' with
    | check c' => cases ht
    | bind c' =>
      have hc := Task.bind.inj ht
      rcases password?_cases hc hi with ⟨p, p', hp, hp'⟩ | ⟨f, hp, hp'⟩
      · have verdict : s.ldap.validate = .ok () → c.verdict s p = c'.verdict s p' := by
          intro h
          exact hv _ (by rw [Task.judged?, h, hp]; rfl) _ (by rw [Task.judged?, h, hp']; rfl)
        obtain ⟨-, -, name⟩ := Credentials.mk.inj hc
        unfold Credentials.verdict Credentials.name at verdict
        rw [name] at verdict
        simp only [perform, withPassword, hp, hp', name, masked_performBind_eq verdict hn]
      · simp only [perform, withPassword, hp, hp', Session.failed, Session.masked, hn]
    | config => cases ht
  | config =>
    cases task' with
    | check c' => cases ht
    | bind c' => cases ht
    | config => simp only [perform, performConfig, Session.masked, hn]

/-! ## Processes -/

/-- The exit without the password in what was received. -/
def Exit.masked (e : Exit) : Exit := { e with network := e.network.masked }

variable {a a' : Arguments} {w w' : Surroundings}

/-- A session is shown the same whatever the password that was given. -/
theorem exit_eq_of_masked (ha : a.masked = a'.masked) (he : AgreeBesidesPassword env env')
    (s : Settings) (x : Session) : x.exit s a env = x.exit s a' env' := by
  obtain ⟨-, -, -, -, output, quiet⟩ := Arguments.mk.inj ha
  have filter := he filterVariable (by decide)
  have coloured : isColoured env = isColoured env' := by
    rw [isColoured, isColoured, he colourVariable (by decide)]
  simp only [Session.exit, filter, coloured, output, quiet]

theorem masked_exit_eq {x x' : Session} (hx : x.masked = x'.masked) (ha : a.masked = a'.masked)
    (he : AgreeBesidesPassword env env') (s : Settings) :
    (x.exit s a env).masked = (x'.exit s a' env').masked := by
  obtain ⟨result, events, network⟩ := Session.mk.inj hx
  rw [exit_eq_of_masked ha he]
  rcases hr : x.result with trouble | answer
  · have hr' := result.symm.trans hr
    simp only [Session.exit, hr, hr', Exit.masked, network, events]
  · have hr' := result.symm.trans hr
    simp only [Session.exit, hr, hr', Exit.masked, network, events]

/-- The surroundings differ in the password at most: in its variable, or in a first line of text on
the input. No file of variables is there. -/
structure Twins (w w' : Surroundings) : Prop where
  lookup : AgreeBesidesPassword w.lookup w'.lookup
  file : w.file = w'.file
  noVariables : ∃ number, w.file variableFile = .unreadable number
  input : AgreeBesidesFirstLine w.input w'.input
  network : w.network = w'.network

theorem Twins.environment (h : Twins w w') :
    AgreeBesidesPassword w.environment w'.environment := by
  obtain ⟨number, hf⟩ := h.noVariables
  rw [Surroundings.environment, Surroundings.environment, ← h.file, hf]
  exact h.lookup

/-- The verdict of the check that a run performs, where it gets that far. -/
def judged? (w : Surroundings) (args : List String) : Option Verdict :=
  match Arguments.read w.environment args with
  | .error _ => none
  | .ok a =>
    match a.settings w.environment w.file with
    | .error _ => none
    | .ok s => a.task.judged? s w.input

/-- **A run** shows the password by the verdict of its check alone. -/
theorem masked_run_eq (h : Twins w w') {args : List String}
    (hv : ∀ v ∈ judged? w args, ∀ v' ∈ judged? w' args, v = v') :
    (run w args).masked = (run w' args).masked := by
  have env := h.environment
  have read := masked_read_eq env args
  rcases hr : Arguments.read w.environment args with halt | a
  · rcases hr' : Arguments.read w'.environment args with halt' | a'
    · rw [hr, hr'] at read
      obtain rfl : halt = halt' := Except.error.inj read
      simp only [run, hr, hr', h.network]
    · rw [hr, hr'] at read
      cases read
  · rcases hr' : Arguments.read w'.environment args with halt' | a'
    · rw [hr, hr'] at read
      cases read
    · rw [hr, hr'] at read
      have ha : a.masked = a'.masked := Except.ok.inj read
      have settings : a.settings w.environment w.file = a'.settings w'.environment w'.file := by
        rw [settings_eq env ha, h.file]
      rcases hs : a.settings w.environment w.file with f | s
      · simp only [run, hr, hr', Arguments.run, ← settings, hs, h.network]
      · have hs' := settings.symm.trans hs
        simp only [judged?, hr, hr', hs, hs'] at hv
        have task : a.task.masked = a'.task.masked := (Arguments.mk.inj ha).1
        rw [run_eq_exit hr hs, run_eq_exit hr' hs']
        exact masked_exit_eq
          (masked_perform_eq task h.input (congrArg Network.masked h.network) hv) ha env s

/-- **The password shows in binds alone.** Runs of the guard over attempts with one surface give the
same results and events, call their binder for the same targets, and show the same terms, before
validation and after it. Processes with twin surroundings and one verdict leave the same status,
output and diagnostics, and networks on which the requests differ in the password at most. -/
theorem password_shows_in_binds_alone :
    (∀ script as bs, as.map Attempt.surface = bs.map Attempt.surface →
      (guardedAll (scripted script) as []).map (Traced.seen (List.map Cleared.target)) =
        (guardedAll (scripted script) bs []).map (Traced.seen (List.map Cleared.target)) ∧
      (callsOf script as).map Cleared.target = (callsOf script bs).map Cleared.target ∧
      as.map Attempt.shown = bs.map Attempt.shown ∧
      as.map (fun a => a.check.map Cleared.shown) = bs.map fun a => a.check.map Cleared.shown) ∧
    ∀ w w' args, Twins w w' → (∀ v ∈ judged? w args, ∀ v' ∈ judged? w' args, v = v') →
      (run w args).status = (run w' args).status ∧
      (run w args).output = (run w' args).output ∧
      (run w args).diagnostics = (run w' args).diagnostics ∧
      (run w args).network.masked = (run w' args).network.masked := by
  refine ⟨fun script as bs => Credential.runs_show_surfaces script, ?_⟩
  intro w w' args h hv
  exact Exit.mk.inj (masked_run_eq h hv)

/-- Surroundings with a server, and a password in its variable. -/
def Surroundings.secret (password : String) : Surroundings :=
  { Surroundings.bare (.answers 49 "" "") with
    lookup := fun name => if name = Variable.password then some password else none }

theorem twins_secret (password password' : String) :
    Twins (.secret password) (.secret password') where
  lookup name h := by simp only [Surroundings.secret, if_neg h]
  file := rfl
  noVariables := ⟨_, rfl⟩
  input := Or.inl rfl
  network := rfl

/-- A command line for a bind with the password of the variable. -/
def secretLine : List String := ["bind", "--server", "ldap://h", "--bind-dn", "cn=a"]

/-- Two passwords that the server receives, and refuses, look alike in the diagnostics. -/
theorem password_shows_in_binds_alone_of_two :
    (run (.secret "a") secretLine).network.request = some (.simpleBind 3 "cn=a" "a") ∧
    (run (.secret "b") secretLine).network.request = some (.simpleBind 3 "cn=a" "b") ∧
    (run (.secret "a") secretLine).diagnostics = (run (.secret "b") secretLine).diagnostics := by
  refine ⟨by decide +kernel, by decide +kernel, ?_⟩
  have verdict : ∀ v ∈ judged? (.secret "a") secretLine,
      ∀ v' ∈ judged? (.secret "b") secretLine, v = v' := by decide +kernel
  exact (password_shows_in_binds_alone.2 _ _ _ (twins_secret "a" "b") verdict).2.2.1

end CommandLine

end Gatekeeper
