import Gatekeeper.CommandLine.Parameter
import Gatekeeper.Credential.Guard
import Gatekeeper.Settings.Written
/-!
# Answers

What the commands answer and how it is written.

* The status is zero when the credentials may be used, or were, and two when they were rejected.
  Settings that are shown always give zero.
* As text, the answers of `check` and `bind` are lines of information, which can be silenced; the
  settings are a document and cannot. As JSON no answer can be silenced.
-/

namespace Gatekeeper.CommandLine

open Credential (Outcome Verdict)

/-- The answer of a command. -/
inductive Answer
  /-- The verdict of `check`. -/
  | judged (verdict : Verdict)
  /-- How the bind to an address under a name ended. -/
  | bind (address bindDn : String) (outcome : Outcome)
  /-- The settings in effect. -/
  | settings (s : Settings)
  deriving DecidableEq, Repr

/-- The status of a process whose credentials were rejected. -/
def rejectedStatus : UInt8 := 2

/-- The status of a process that could not answer. -/
def failedStatus : UInt8 := 1

/-- Colours of a terminal. -/
inductive Colour
  | boldGreen | boldRed | green | yellow | cyan
  deriving DecidableEq, Repr

/-- The parameters that select the colour. -/
def Colour.code : Colour → String
  | boldGreen => "1;32"
  | boldRed => "1;31"
  | green => "32"
  | yellow => "33"
  | cyan => "36"

/-- The text in a colour, when colours are on. -/
def Colour.paint (coloured : Bool) (c : Colour) (text : String) : String :=
  if coloured then s!"\x1b[{c.code}m{text}\x1b[0m" else text

namespace Answer

/-- The status of the process. -/
def status : Answer → UInt8
  | judged v => if v.isAllowed then 0 else rejectedStatus
  | bind _ _ outcome => if outcome.isBound then 0 else rejectedStatus
  | settings _ => 0

/-- The answer as JSON. -/
def json : Answer → Json
  | judged v => .object [
      ("result", .string v.name),
      ("allowed", .bool v.isAllowed),
      ("reason", .string v.description)]
  | bind address bindDn outcome => .object ([
      ("server", .string address),
      ("bind_dn", .string bindDn),
      ("bound", .bool outcome.isBound)] ++
      (outcome.rejection?.map fun v => ("rejected", Json.string v.name)).toList)
  | settings s => s.json

/-- The line on a verdict. -/
def verdictLine (coloured : Bool) (v : Verdict) : String :=
  let colour := if v.isAllowed then Colour.boldGreen else Colour.boldRed
  s!"{colour.paint coloured v.name}: {v.description}\n"

/-- The answer as text. -/
def text (quiet coloured : Bool) : Answer → String
  | judged v => if quiet then "" else verdictLine coloured v
  | bind address bindDn outcome =>
    if quiet then ""
    else
      match outcome with
      | .skipped v =>
        let notice := Colour.yellow.paint coloured "Bind skipped"
        verdictLine coloured v ++ s!"{notice}\n"
      | .bound =>
        let notice := Colour.green.paint coloured "Bound to"
        s!"{notice} {address} as {Colour.cyan.paint coloured bindDn}\n"
  | settings s => String.ofList s.toml

/-- What the process writes as its output. -/
def output (format : OutputFormat) (quiet coloured : Bool) (a : Answer) : String :=
  match format with
  | .text => a.text quiet coloured
  | .json => s!"{a.json.toText}\n"

end Answer

end Gatekeeper.CommandLine
