/-!
# Events

An event tells what happened at one place of the program, its target, and how severe it is. Its
message comes first when it is written and its fields follow in the order given here.
-/

namespace Gatekeeper.Log

/-- How severe an event is, the gravest first. -/
inductive Level
  | error | warn | info | debug | trace
  deriving DecidableEq, Repr

namespace Level

/-- The place of the level between one, for errors, and five. -/
def rank : Level → Nat
  | error => 1
  | warn => 2
  | info => 3
  | debug => 4
  | trace => 5

/-- The level in capitals. -/
def name : Level → String
  | error => "ERROR"
  | warn => "WARN"
  | info => "INFO"
  | debug => "DEBUG"
  | trace => "TRACE"

end Level

/-- Something that happened. -/
structure Event where
  level : Level
  /-- The place in the program that tells it. -/
  target : String
  message : String
  /-- What the event is about, as names with displayed values. -/
  fields : List (String × String) := []
  deriving DecidableEq, Repr

end Gatekeeper.Log
