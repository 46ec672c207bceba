import Gatekeeper.CommandLine.Parameter
import Gatekeeper.Settings.Variables
/-!
# Arguments

A command line is read in two places: before the command, and after it. In each place

* `--name value`, `--name=value`, `-n value`, `-nvalue` and `-n=value` give a value, and switches
  may share a dash: `-qojson`;
* what follows a parameter that still lacks its value is that value, even the word of a command,
  unless it begins with a dash and is longer than that;
* no parameter may be given twice. A value is looked at when the next parameter begins or the
  place ends, so an argument that is out of place is reported before a bad value to its left.

A parameter that may stand in both places takes the value after the command, then the one before
it, then its variable's.
-/

namespace Gatekeeper.CommandLine

open Settings (Lookup)

/-- Why a command line gives nothing to run. -/
inductive Halt
  | fault (f : UsageFault)
  /-- The usage is to be shown. -/
  | help
  /-- The usage is to be shown because nothing was asked for. -/
  | bare
  /-- The version is to be shown. -/
  | version
  deriving DecidableEq, Repr

/-- What a word before the command can turn to: a command, or help on one. -/
inductive Turn
  | command (c : Command)
  | help
  deriving DecidableEq, Repr

/-- The turn with a word. -/
def Turn.ofWord? (a : String) : Option Turn :=
  if a = "help" then some .help else (Command.ofWord? a).map .command

/-! ## One place -/

/-- What has been read in one place. -/
structure Place where
  /-- The command that the place follows. -/
  command : Option Command
  /-- The parameters given, each with its value; a switch with the empty one. -/
  given : List (Parameter × String) := []
  /-- The last parameter, with its value when it has been read. -/
  pending : Option (Parameter × Option String) := none
  deriving DecidableEq, Repr

namespace Place

/-- The value of a parameter. -/
def value? (s : Place) (p : Parameter) : Option String :=
  (s.given.find? (·.1 = p)).map (·.2)

/-- The parameter is given. -/
def has (s : Place) (p : Parameter) : Bool := (s.value? p).isSome

/-- The place with one more parameter given. -/
def give (s : Place) (p : Parameter) (value : String) : Except Halt Place :=
  if s.has p then .error (.fault (.repeated p))
  else if p.refuses value then
    .error (.fault (if value.isEmpty then .missingValue p else .invalidValue value p))
  else if p = .help then .error .help
  else if p = .version then .error .version
  else .ok { s with given := s.given ++ [(p, value)] }

/-- The place with its last parameter given. -/
def settle (s : Place) : Except Halt Place :=
  match s.pending with
  | none => .ok s
  | some (p, none) => .error (.fault (.missingValue p))
  | some (p, some value) => give { s with pending := none } p value

/-- The last parameter still lacks its value. -/
def isAwaiting (s : Place) : Bool :=
  match s.pending with
  | some (_, none) => true
  | _ => false

/-- The place after a parameter that takes a value, which may be attached to it. -/
def enter (s : Place) (p : Parameter) (attached : Option String) : Except Halt Place := do
  let s ← s.settle
  match attached with
  | some value => s.give p value
  | none => .ok { s with pending := some (p, none) }

/-- The place after an argument that begins with two dashes, without them. -/
def readLong (s : Place) (cs : List Char) : Except Halt Place :=
  let name := cs.takeWhile (· ≠ '=')
  let attached := (cs.dropWhile (· ≠ '=')).tail?.map String.ofList
  match Parameter.ofLong? s.command name with
  | none => .error (.fault (.unexpectedArgument ("--" ++ String.ofList name)))
  | some p =>
    if p.takesValue then s.enter p attached
    else
      match attached with
      | some value => .error (.fault (.unexpectedValue value p))
      | none => do (← s.settle).give p ""

/-- The value in what follows a letter. -/
def attached? : List Char → Option String
  | [] => none
  | '=' :: t => some (String.ofList t)
  | t => some (String.ofList t)

/-- The place after an argument that begins with one dash, without it. -/
def readShort (s : Place) : List Char → Except Halt Place
  | [] => .ok s
  | c :: t =>
    match Parameter.ofShort? s.command c with
    | none => .error (.fault (.unexpectedArgument (String.ofList ['-', c])))
    | some p =>
      if p.takesValue then s.enter p (attached? t)
      else do
        let s ← s.settle
        let s ← s.give p ""
        readShort s t

/-- The fault of an argument that is neither parameter nor value. Before the command it must have
been meant as one, unless it is one and follows two dashes. -/
def stray (s : Place) (dashed : Bool) (a : String) : UsageFault :=
  if s.command.isSome || dashed && (Turn.ofWord? a).isSome then
    .unexpectedArgument a
  else .unknownCommand a

end Place

/-! ## The whole line -/

/-- Reads a place to its end: the end of the line, or the word of a command, which is given with
the arguments behind it. -/
def Place.read (s : Place) : List String → Except Halt (Place × Option (Turn × List String))
  | [] => .ok (s, none)
  | a :: as =>
    match if s.command.isNone && !s.isAwaiting then Turn.ofWord? a else none with
    | some turn => .ok (s, some (turn, as))
    | none =>
      match a.toList with
      | ['-', '-'] =>
        match as with
        | [] => .ok (s, none)
        | b :: _ => .error (.fault (s.stray true b))
      | '-' :: '-' :: t => do (← s.readLong t).read as
      | '-' :: c :: t => do (← s.readShort (c :: t)).read as
      | _ =>
        match s.pending with
        | some (p, none) => read { s with pending := some (p, some a) } as
        | _ => .error (.fault (s.stray false a))

/-- What the words after `help` ask for: nothing, or one command. -/
def helpOn : List String → Halt
  | [] => .help
  | a :: as =>
    if (Turn.ofWord? a).isNone then .fault (.unknownCommand a)
    else
      match as with
      | [] => .help
      | b :: _ => .fault (.unknownCommand b)

/-- What `check` and `bind` are told of the credentials. -/
structure Credentials where
  password : Option String
  /-- The password is the first line of the input, whatever `password` is. -/
  fromInput : Bool
  bindDn : Option String
  deriving DecidableEq, Repr

/-- What is to be done. -/
inductive Task
  | check (credentials : Credentials)
  | bind (credentials : Credentials)
  | config
  deriving DecidableEq, Repr

/-- The task reads the input. -/
def Task.readsInput : Task → Bool
  | check c | bind c => c.fromInput
  | config => false

/-- A command line that was understood, with the variables that stand in for parameters. -/
structure Arguments where
  task : Task
  configFile : Option String
  server : Option String
  logLevel : Option String
  output : OutputFormat
  quiet : Bool
  deriving DecidableEq, Repr

namespace Variable

/-- The variable of the settings file. -/
def config : String := "BINDGUARD_CONFIG"
/-- The variable of the password. -/
def password : String := "BINDGUARD_PASSWORD"

end Variable

namespace Arguments

/-- The variables that stand in for parameters of every command. -/
def sharedVariables : List String :=
  [Variable.config, Settings.Variable.serverUrl, Settings.Variable.logLevel]

/-- The credentials that a place gives. -/
def credentials (env : Lookup) (s : Place) : Credentials where
  password := s.value? .password <|> env Variable.password
  fromInput := s.has .passwordStdin
  bindDn := s.value? .bindDn

/-- The arguments that the places before and after a command give. -/
def ofPlaces (env : Lookup) (before : Place) (c : Command) (after : Place) : Arguments :=
  let value? := fun p => after.value? p <|> before.value? p
  { task := match c with
      | .check => .check (credentials env after)
      | .bind => .bind (credentials env after)
      | .config => .config
    configFile := value? .config <|> env Variable.config
    server := value? .server <|> env Settings.Variable.serverUrl
    logLevel := value? .logLevel <|> env Settings.Variable.logLevel
    output := ((value? .output).bind OutputFormat.ofName?).getD .text
    quiet := after.has .quiet || before.has .quiet }

/-- The arguments that a command line gives. -/
def read (env : Lookup) (args : List String) : Except Halt Arguments := do
  let (before, turn) ← ({ command := none } : Place).read args
  match turn with
  | some (.command c, rest) =>
    let (after, _) ← ({ command := some c } : Place).read rest
    let after ← after.settle
    let before ← before.settle
    .ok (ofPlaces env before c after)
  | some (.help, rest) => .error (helpOn rest)
  | none =>
    let before ← before.settle
    if before.given.isEmpty && sharedVariables.all fun v => (env v).isNone then .error .bare
    else .error (.fault .missingCommand)

end Arguments

end Gatekeeper.CommandLine
