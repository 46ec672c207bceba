import Gatekeeper.Credential.Verdict
import Gatekeeper.Json.Magnitude
import Gatekeeper.Text.Quoted
import Gatekeeper.Text.Utf8
/-!
# Verdicts as JSON

A verdict is written as the string of its name. It is read from that string, or from an object
whose only member has that name and the value `null`.

A document that is JSON and holds something else where a verdict is expected is told apart from
one that is malformed, and the place is given: a line and the number of bytes read of it.
-/

namespace Gatekeeper.Credential

/-- Why a document holds no verdict. -/
inductive DecodeFault
  /-- It holds something else. -/
  | content (reason : String) (line column : Nat)
  /-- It is not formed as a verdict is. -/
  | malformed
  deriving DecidableEq, Repr

/-- The fault in words. -/
def DecodeFault.message : DecodeFault → String
  | content reason line column => s!"{reason} at line {line} column {column}"
  | malformed => "malformed"

namespace Verdict

open Json (Reader.skipBlanks Reader.word? Reader.string? Reader.number?)

/-- The verdict as JSON. -/
def json (v : Verdict) : Json := .string v.name

/-- The line reached after reading a part of a text, and the bytes read of that line. -/
def positionAfter (read : List Char) : Nat × Nat :=
  (read.count '\n' + 1, Utf8.byteSize (read.reverse.takeWhile (· ≠ '\n')))

/-- A fault of content, found when `rest` of the text was left to read. -/
def unexpected (text rest : List Char) (reason : String) : DecodeFault :=
  let position := positionAfter (text.take (text.length - rest.length))
  .content reason position.1 position.2

/-- The verdict named by a string, found when `rest` of the text was left to read. -/
def ofNameAt (text rest : List Char) (name : String) : Except DecodeFault Verdict :=
  match ofName? name with
  | some v => .ok v
  | none => .error (unexpected text rest (s!"unknown variant `{name}`, expected one of " ++
      ", ".intercalate (all.map fun v => s!"`{v.name}`")))

/-- The fault of a value that stands where `expected` is due, at the head of `cs`. A value that is
itself malformed, and anything else, is a malformed document. -/
def mismatch (text cs : List Char) (expected : String) : DecodeFault :=
  let at_ := fun rest what => unexpected text rest s!"invalid type: {what}, expected {expected}"
  match cs with
  | 'n' :: t => (Reader.word? "ull" t).elim .malformed fun rest => at_ rest "null"
  | 't' :: t => (Reader.word? "rue" t).elim .malformed fun rest => at_ rest "boolean `true`"
  | 'f' :: t => (Reader.word? "alse" t).elim .malformed fun rest => at_ rest "boolean `false`"
  | '"' :: t =>
    (Reader.string? t).elim .malformed fun (s, rest) => at_ rest s!"string {Text.quoted s}"
  | '[' :: _ => at_ cs "sequence"
  | '\x7b' :: _ => at_ cs "map"
  | _ =>
    match Reader.number? cs with
    | some (n, rest) =>
      (Json.Magnitude.ofNumber? n).elim .malformed fun m => at_ rest m.describe
    | none => .malformed

/-- Nothing but blanks may follow a verdict. -/
def atEnd (v : Verdict) (rest : List Char) : Except DecodeFault Verdict :=
  if (Reader.skipBlanks rest).isEmpty then .ok v else .error .malformed

/-- The verdict that a document holds. -/
def ofJson (text : List Char) : Except DecodeFault Verdict :=
  match Reader.skipBlanks text with
  | '"' :: t =>
    match Reader.string? t with
    | some (name, rest) => do atEnd (← ofNameAt text rest name) rest
    | none => .error .malformed
  | '\x7b' :: t =>
    match Reader.skipBlanks t with
    | '"' :: t =>
      match Reader.string? t with
      | some (name, rest) => do
        let v ← ofNameAt text rest name
        match Reader.skipBlanks rest with
        | ':' :: t =>
          match Reader.skipBlanks t with
          | 'n' :: t =>
            match (Reader.word? "ull" t).map Reader.skipBlanks with
            | some ('\x7d' :: rest) => atEnd v rest
            | _ => .error .malformed
          | t => .error (mismatch text t "unit")
        | _ => .error .malformed
      | none => .error .malformed
    | t => .error (mismatch text t "variant identifier")
  | _ => .error .malformed

end Verdict

end Gatekeeper.Credential
