import Gatekeeper.Json.Basic
import Gatekeeper.Log.Event
/-!
# Log lines

How an event is written: as a plain line of level, target, message and fields, or as a JSON object
with the fields, message first, between level and target.

In a plain line the message cannot drive a terminal: the control characters that begin or make up
such sequences are spelled out.

Each format has a layer that writes it, and the settings turn on one of the two. Every event that is
shown goes through all layers that are on, and so makes one line (`written_eq`).
-/

namespace Gatekeeper.Log

/-- How a plain line shows a character of a message. -/
def messageChar (c : Char) : List Char :=
  if c = '\x1b' then "\\x1b".toList
  else if c = '\x07' then "\\x07".toList
  else if c = '\x08' then "\\x08".toList
  else if c = '\x0c' then "\\x0c".toList
  else if c = '\x7f' then "\\x7f".toList
  else if 0x80 ≤ c.toNat && c.toNat ≤ 0x9f then
    "\\u\x7b".toList ++ Nat.toDigits 16 c.toNat ++ ['\x7d']
  else [c]

/-- A message as a plain line shows it. -/
def messageText (s : String) : String := String.ofList (s.toList.flatMap messageChar)

/-- The level with blanks before it up to five characters. -/
def Level.column (l : Level) : String :=
  String.ofList (List.replicate (5 - l.name.length) ' ') ++ l.name

namespace Event

/-- The event as a plain line. -/
def plainLine (e : Event) : String :=
  " ".intercalate (s!"{e.level.column} {e.target}: {messageText e.message}" ::
    e.fields.map fun f => s!"{f.1}={f.2}")

/-- The event as JSON. -/
def json (e : Event) : Json :=
  .object [
    ("level", .string e.level.name),
    ("fields", .object (("message", .string e.message) ::
      e.fields.map fun f => (f.1, .string f.2))),
    ("target", .string e.target)]

/-- The event as a line of JSON. -/
def jsonLine (e : Event) : String := e.json.toLine

/-- The event as a line of either format. -/
def line (asJson : Bool) (e : Event) : String := if asJson then e.jsonLine else e.plainLine

end Event

/-- The layers that are on. -/
def layers (asJson : Bool) : List (Event → String) :=
  (if asJson then [Event.jsonLine] else []) ++ (if !asJson then [Event.plainLine] else [])

/-- The lines that the layers write. -/
def written (asJson : Bool) (events : List Event) : List String :=
  events.flatMap fun e => (layers asJson).map fun layer => layer e

/-- Every event makes one line. -/
theorem written_eq (asJson : Bool) (events : List Event) :
    written asJson events = events.map (Event.line asJson) := by
  have one (e : Event) : ((layers asJson).map fun layer => layer e) = [e.line asJson] := by
    cases asJson <;> rfl
  simp only [written, one, List.map_eq_flatMap]

end Gatekeeper.Log
