import Gatekeeper.Settings.Basic
import Gatekeeper.Text.Quoted
import Gatekeeper.Toml.Value
/-!
# Settings in a TOML document

The settings that the tables `ldap` and `logging` of a document give. A key that is missing leaves
the default and a key that is not known is ignored.

A table is looked through in the order of its keys, so of several faults the one of the least key
is told (`leastFault?`). A section may also be spelled as an array of its values in their order, of
which the last ones may be missing.

A number that no type can hold is a fault wherever it stands, also under a key that is not known.
-/

namespace Gatekeeper.Settings

open Toml (Entries Span Value)

/-- Where a value does not fit, and why. -/
abbrev Misfit := Span × String

/-! ## Single values -/

/-- Kind and value in words; there are none for a number beyond double precision. -/
def describe? : Value → Option String
  | .string s => some s!"string {Text.quoted s}"
  | .integer n => if Value.fits128 n then some s!"integer `{n}`" else none
  | .garbled => none
  | .real x => x.text?.map fun t => s!"floating point `{t}`"
  | .boolean b => some s!"boolean `{b}`"
  | .array _ _ => some "sequence"
  | .moment _ | .table _ _ => some "map"

/-- A value of another kind than expected. -/
def otherKind (expected : String) (v : Value) : String :=
  match describe? v with
  | some what => s!"invalid type: {what}, expected {expected}"
  | none => "number overflowed"

/-- Why a value is no string. -/
def stringMisfit? : Value → Option String
  | .string _ => none
  | v => some (otherKind "a string" v)

/-- Why a value is no truth value. -/
def booleanMisfit? : Value → Option String
  | .boolean _ => none
  | v => some (otherKind "a boolean" v)

/-- Why a value is no number of 64 bits. -/
def uint64Misfit? : Value → Option String
  | .integer n =>
    if 0 ≤ n && n < UInt64.size then none
    else some s!"invalid value: integer `{n}`, expected u64"
  | v => some (otherKind "u64" v)

/-- The text of a string. -/
def string? : Value → Option String
  | .string s => some s
  | _ => none

/-- The truth of a truth value. -/
def boolean? : Value → Option Bool
  | .boolean b => some b
  | _ => none

/-- The number of an integer. -/
def uint64? : Value → Option UInt64
  | .integer n => some (UInt64.ofNat n.toNat)
  | _ => none

/-- What a reader makes of the value of a key, or the default. -/
def fieldOf {α : Type} (es : Entries) (key : String) (read? : Value → Option α) (default : α) : α :=
  ((es.get? key).bind fun v => read? v.2).getD default

/-! ## Tables -/

/-- The misfit that a check finds under the least key. -/
def leastFault? (check : String → Span → Value → Option Misfit) (es : Entries) : Option Misfit :=
  (es.foldr (fun e rest => Value.lesser ((check e.1 e.2.1 e.2.2).map (e.1, ·)) rest) none).map (·.2)

/-- The misfit of a value under a key that is not known. -/
def unknownMisfit? (span : Span) (v : Value) : Option Misfit :=
  (v.unfit? span).map (·, "number overflowed")

namespace Ldap

/-- The keys of the section, in the order in which an array gives their values. -/
def keys : List String := ["server_url", "bind_dn", "start_tls", "timeout_seconds"]

/-- The misfit of the value of a key. -/
def fieldMisfit? (key : String) (span : Span) (v : Value) : Option Misfit :=
  if key = "server_url" || key = "bind_dn" then (stringMisfit? v).map (span, ·)
  else if key = "start_tls" then (booleanMisfit? v).map (span, ·)
  else if key = "timeout_seconds" then (uint64Misfit? v).map (span, ·)
  else unknownMisfit? span v

/-- The first misfit of the section. -/
def misfit? (span : Span) : Value → Option Misfit
  | .table _ es => leastFault? fieldMisfit? es
  | .array _ items => (keys.zip items).findSome? fun e => fieldMisfit? e.1 e.2.1 e.2.2
  | .moment _ => none
  | v => some (span, otherKind "struct LdapServerConfig" v)

/-- The section that entries give. -/
def ofEntries (es : Entries) : Ldap where
  serverUrl := fieldOf es "server_url" string? ({} : Ldap).serverUrl
  bindDn := fieldOf es "bind_dn" string? ({} : Ldap).bindDn
  startTls := fieldOf es "start_tls" boolean? ({} : Ldap).startTls
  timeoutSeconds := fieldOf es "timeout_seconds" uint64? ({} : Ldap).timeoutSeconds

/-- The section that a value gives. -/
def ofValue : Value → Ldap
  | .table _ es => ofEntries es
  | .array _ items => ofEntries (keys.zip items)
  | _ => {}

end Ldap

namespace Logging

/-- The keys of the section, in the order in which an array gives their values. -/
def keys : List String := ["level", "format"]

/-- The misfit of the value of a key. -/
def fieldMisfit? (key : String) (span : Span) (v : Value) : Option Misfit :=
  if key = "level" || key = "format" then (stringMisfit? v).map (span, ·)
  else unknownMisfit? span v

/-- The first misfit of the section. -/
def misfit? (span : Span) : Value → Option Misfit
  | .table _ es => leastFault? fieldMisfit? es
  | .array _ items => (keys.zip items).findSome? fun e => fieldMisfit? e.1 e.2.1 e.2.2
  | .moment _ => none
  | v => some (span, otherKind "struct LoggingConfig" v)

/-- The section that entries give. -/
def ofEntries (es : Entries) : Logging where
  level := fieldOf es "level" string? ({} : Logging).level
  format := fieldOf es "format" string? ({} : Logging).format

/-- The section that a value gives. -/
def ofValue : Value → Logging
  | .table _ es => ofEntries es
  | .array _ items => ofEntries (keys.zip items)
  | _ => {}

end Logging

/-! ## Documents -/

/-- The misfit of the value of a key of the document. -/
def sectionMisfit? (key : String) (span : Span) (v : Value) : Option Misfit :=
  if key = "ldap" then Ldap.misfit? span v
  else if key = "logging" then Logging.misfit? span v
  else unknownMisfit? span v

/-- The settings that a document gives, or its first misfit. -/
def ofEntries (es : Entries) : Except Misfit Settings :=
  match leastFault? sectionMisfit? es with
  | some misfit => .error misfit
  | none => .ok {
      ldap := ((es.get? "ldap").map fun v => Ldap.ofValue v.2).getD {}
      logging := ((es.get? "logging").map fun v => Logging.ofValue v.2).getD {} }

end Gatekeeper.Settings
