/-!
# Parameters

The words of the command line: the commands, the parameters with their spellings, and what can be
wrong with a line.

A parameter that takes a value is shown with the name of its value in angle brackets, a switch by
its long spelling alone. Most parameters may stand before the command or after it; those on the
credentials belong to `check` and `bind`.
-/

namespace Gatekeeper.CommandLine

/-- What the program can do. -/
inductive Command
  /-- Judge a password without a server. -/
  | check
  /-- Judge a password, and bind with it when it is allowed. -/
  | bind
  /-- Show the settings in effect. -/
  | config
  deriving DecidableEq, Repr

/-- The word of a command. -/
def Command.word : Command → String
  | check => "check"
  | bind => "bind"
  | config => "config"

/-- The command with a word. -/
def Command.ofWord? (a : String) : Option Command :=
  [Command.check, .bind, .config].find? (·.word = a)

theorem Command.ofWord?_word (c : Command) : ofWord? c.word = some c := by cases c <;> decide

/-- How a command writes its answer. -/
inductive OutputFormat
  | text | json
  deriving DecidableEq, Repr

/-- The format with a name. -/
def OutputFormat.ofName? (name : String) : Option OutputFormat :=
  if name = "text" then some .text else if name = "json" then some .json else none

/-- What can be set on the command line. -/
inductive Parameter
  | config | server | logLevel | output | quiet
  | password | passwordStdin | bindDn
  | help | version
  deriving DecidableEq, Repr

namespace Parameter

/-- All parameters. -/
def all : List Parameter :=
  [config, server, logLevel, output, quiet, password, passwordStdin, bindDn, help, version]

/-- The spelling after two dashes. -/
def long : Parameter → String
  | config => "config"
  | server => "server"
  | logLevel => "log-level"
  | output => "output"
  | quiet => "quiet"
  | password => "password"
  | passwordStdin => "password-stdin"
  | bindDn => "bind-dn"
  | help => "help"
  | version => "version"

/-- The letter after one dash, where there is one. -/
def short? : Parameter → Option Char
  | config => some 'c'
  | output => some 'o'
  | quiet => some 'q'
  | help => some 'h'
  | version => some 'V'
  | _ => none

/-- The name of the value, where the parameter takes one. -/
def valueName? : Parameter → Option String
  | config => some "CONFIG"
  | server => some "SERVER"
  | logLevel => some "LOG_LEVEL"
  | output => some "OUTPUT"
  | password => some "PASSWORD"
  | bindDn => some "BIND_DN"
  | quiet | passwordStdin | help | version => none

/-- The parameter is followed by a value. -/
def takesValue (p : Parameter) : Bool := p.valueName?.isSome

/-- The parameter as messages show it. -/
def shown (p : Parameter) : String :=
  match p.valueName? with
  | some name => s!"--{p.long} <{name}>"
  | none => s!"--{p.long}"

/-- The parameter may stand before the command (`none`), or after the given one. -/
def isFor (place : Option Command) (p : Parameter) : Bool :=
  match p with
  | config | server | logLevel | output | quiet | help => true
  | version => place = none
  | password | passwordStdin | bindDn => place = some .check || place = some .bind

/-- The parameter of a place with a long spelling. -/
def ofLong? (place : Option Command) (name : List Char) : Option Parameter :=
  all.find? fun p => p.isFor place && p.long.toList = name

/-- The parameter of a place with a letter. -/
def ofShort? (place : Option Command) (c : Char) : Option Parameter :=
  all.find? fun p => p.isFor place && p.short? = some c

/-- Texts that the parameter does not take as its value. -/
def refuses (p : Parameter) (value : String) : Bool :=
  p = output && (OutputFormat.ofName? value).isNone

end Parameter

/-- What is wrong with a command line. -/
inductive UsageFault
  /-- Nothing may stand where this argument does. -/
  | unexpectedArgument (text : String)
  /-- A switch has a value. -/
  | unexpectedValue (value : String) (p : Parameter)
  /-- A parameter has no value, or the empty one where that is none. -/
  | missingValue (p : Parameter)
  /-- A parameter does not take this value. -/
  | invalidValue (value : String) (p : Parameter)
  /-- A parameter is given twice in one place. -/
  | repeated (p : Parameter)
  /-- There is no such command. -/
  | unknownCommand (text : String)
  /-- There is no command. -/
  | missingCommand
  deriving DecidableEq, Repr

/-- The fault in words. -/
def UsageFault.message : UsageFault → String
  | unexpectedArgument text => s!"unexpected argument '{text}' found"
  | unexpectedValue value p =>
    s!"unexpected value '{value}' for '{p.shown}' found; no more were expected"
  | missingValue p => s!"a value is required for '{p.shown}' but none was supplied"
  | invalidValue value p => s!"invalid value '{value}' for '{p.shown}'"
  | repeated p => s!"the argument '{p.shown}' cannot be used multiple times"
  | unknownCommand text => s!"unrecognized subcommand '{text}'"
  | missingCommand => "'bindguard' requires a subcommand but one wasn't provided"

end Gatekeeper.CommandLine
