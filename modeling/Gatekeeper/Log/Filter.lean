import Gatekeeper.Log.Event
import Gatekeeper.Numeral.Digits
import Gatekeeper.Text.Class
import Gatekeeper.Text.Word
/-!
# Log filters

Which events are shown. A filter is a list of directives between commas, each a level, a target, or
a target with its level:

* a directive without a target holds for every event, one with a target for the events whose
  target begins with it;
* of those that hold for an event the longest decides, and of equally long ones the last;
* an event that none holds for is hidden, and a filter without directives shows errors only.

`Filter.parse?` refuses a text with a faulty directive, `Filter.ofText` leaves such directives out
and says so. The filter of a program is the first where it is given and well formed, and else the
second (`Filter.choose`).
-/

namespace Gatekeeper.Log

/-- The directive shows events of at most this rank; rank zero shows none. -/
structure Directive where
  target : List Char
  rank : Nat
  deriving DecidableEq, Repr

/-- Why a text is no directive. -/
inductive DirectiveFault
  | directive
  | level
  deriving DecidableEq, Repr

/-- The fault in words. -/
def DirectiveFault.message : DirectiveFault → String
  | directive => "invalid filter directive"
  | level => "error parsing level filter: expected one of \"off\", \"error\", \"warn\", " ++
      "\"info\", \"debug\", \"trace\", or a number 0-5"

/-! ## Reading -/

/-- The names of the ranks, from none on. -/
def rankNames : List String := ["off", "error", "warn", "info", "debug", "trace"]

/-- The rank that a name, in any letter case, or a number stands for. -/
def rank? (s : String) : Option Nat :=
  match Numeral.readUInt64? s with
  | some n => if n.toNat ≤ 5 then some n.toNat else none
  | none => rankNames.findIdx? (· = Text.lower s)

/-- The text without the white space around it. -/
def trimmed (cs : List Char) : List Char :=
  ((cs.dropWhile Text.isBlank).reverse.dropWhile Text.isBlank).reverse

/-- The character may begin a directive. -/
def beginsDirective (c : Char) : Bool :=
  c = '-' || c = ':' || c = '_' || Text.isWordChar c

/-- The directive that a text spells. White space around it is passed over to find its parts; the
parts are then taken from the text itself, so white space before a level or a target is a part of
it.

Directives on spans and fields, which stand in brackets, are left out of these filters: a text with
an opening bracket is refused, also where it spells such a directive. -/
def Directive.parse (cs : List Char) : Except DirectiveFault Directive :=
  match trimmed cs with
  | [] => .error .directive
  | c :: t =>
    if !beginsDirective c || t.contains '[' then .error .directive
    else
      match (trimmed cs).findIdx? (· = '=') with
      | none =>
        match rank? (String.ofList cs) with
        | some rank => .ok ⟨[], rank⟩
        | none => .ok ⟨cs, Level.trace.rank⟩
      | some k =>
        let level := cs.drop (k + 1)
        if level.isEmpty then .ok ⟨cs.take k, Level.trace.rank⟩
        else
          match rank? (String.ofList level) with
          | some rank => .ok ⟨cs.take k, rank⟩
          | none => .error .level

/-- A list of directives. -/
abbrev Filter := List Directive

namespace Filter

/-- The directives' texts. -/
def pieces (s : String) : List (List Char) :=
  (s.toList.splitOn ',').filter fun p => !p.isEmpty

/-- The filter that a text spells, when all its directives are well formed. -/
def parse? (s : String) : Option Filter :=
  (pieces s).mapM fun p => (Directive.parse p).toOption

/-- The filter of the well-formed directives of a text, and a notice on each of the others. -/
def ofText (s : String) : Filter × List String :=
  ((pieces s).filterMap fun p => (Directive.parse p).toOption,
    (pieces s).filterMap fun p =>
      match Directive.parse p with
      | .ok _ => none
      | .error fault => some s!"ignoring `{String.ofList p}`: {fault.message}")

/-- The filter of a program: the one asked for where it is well formed, else the configured one
with its notices. -/
def choose (asked : Option String) (configured : String) : Filter × List String :=
  match asked.bind parse? with
  | some f => (f, [])
  | none => ofText configured

/-! ## Showing -/

/-- The directive holds for a target. -/
def holds (target : String) (d : Directive) : Bool := d.target.isPrefixOf target.toList

/-- The later of two directives, unless the earlier one has a longer target. -/
def stronger (best : Option Directive) (d : Directive) : Option Directive :=
  match best with
  | some b => if d.target.length < b.target.length then some b else some d
  | none => some d

/-- The directive that decides on a target. -/
def deciding? (f : Filter) (target : String) : Option Directive :=
  (f.filter (holds target)).foldl stronger none

/-- The event is shown. -/
def shows (f : Filter) (e : Event) : Bool :=
  if f.isEmpty then e.level.rank ≤ Level.error.rank
  else
    match deciding? f e.target with
    | some d => e.level.rank ≤ d.rank
    | none => false

end Filter

end Gatekeeper.Log
