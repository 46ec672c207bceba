import Gatekeeper.Numeral.Binary64
/-!
# Values of a TOML document

A value knows what it says and a table also how it came about, because that decides whether a
later statement may add to it. Each value in an array or a table stands with the bytes it takes in
the document.

`Value.isPlain` holds of a value in which every number fits 64 bits, `Value.unfit?` finds a number
that nobody can read at all.
-/

namespace Gatekeeper.Toml

/-- A stretch of bytes. -/
structure Span where
  start : Nat
  stop : Nat
  deriving DecidableEq, Repr

/-- A number with a point or an exponent, as it is spelled. -/
inductive Real
  | nan
  | infinity (negative : Bool)
  | finite (negative : Bool) (digits : Nat) (power : Int)
  deriving DecidableEq, Repr

namespace Real

/-- The number in words: rounded to double precision, by its shortest decimal. -/
def text? : Real → Option String
  | nan => some "NaN"
  | infinity negative => some (if negative then "-inf" else "inf")
  | finite negative digits power =>
    (Numeral.Binary64.ofDecimal? digits power).map fun x =>
      (if negative then "-" else "") ++ x.text

end Real

/-- How a table came about. -/
inductive TableKind
  /-- It has a header of its own, or is the document. -/
  | explicit
  /-- It stands in the path of a header only. -/
  | implied
  /-- It stands in the path of an assignment. -/
  | dotted
  /-- It stands between braces. -/
  | inline
  deriving DecidableEq, Repr

/-- A value. -/
inductive Value
  | string (text : String)
  | integer (n : Int)
  /-- What was meant as an integer and has no digits, or other characters among them. -/
  | garbled
  | real (x : Real)
  | boolean (b : Bool)
  /-- A date, a time or both, as it is spelled. -/
  | moment (text : String)
  /-- An array, of tables with headers or of values between brackets. -/
  | array (ofTables : Bool) (items : List (Span × Value))
  | table (kind : TableKind) (entries : List (String × Span × Value))
  deriving Repr, Inhabited

/-- The entries of a table, in the order of their first mention. -/
abbrev Entries := List (String × Span × Value)

/-- The value of a key and the bytes it takes. -/
def Entries.get? (es : Entries) (key : String) : Option (Span × Value) :=
  (es.find? (·.1 = key)).map (·.2)

/-- Gives a key a value, in its old place when it has one. -/
def Entries.set (es : Entries) (key : String) (span : Span) (v : Value) : Entries :=
  if es.any (·.1 = key) then es.map fun e => if e.1 = key then (key, span, v) else e
  else es ++ [(key, span, v)]

namespace Value

/-! ## Numbers that fit -/

/-- The value holds no integer outside 64 bits and no number beyond double precision. -/
def isPlain : Value → Bool
  | string _ | boolean _ | moment _ => true
  | garbled => false
  | integer n => -0x8000000000000000 ≤ n && n < 0x8000000000000000
  | real x => x.text?.isSome
  | array _ items => itemsPlain items
  | table _ entries => entriesPlain entries
where
  /-- All items of an array are so. -/
  itemsPlain : List (Span × Value) → Bool
    | [] => true
    | (_, v) :: vs => isPlain v && itemsPlain vs
  /-- All values of a table are so. -/
  entriesPlain : List (String × Span × Value) → Bool
    | [] => true
    | (_, _, v) :: es => isPlain v && entriesPlain es

/-- The integer has a type of 128 bits, with a sign or without one. -/
def fits128 (n : Int) : Bool :=
  -0x80000000000000000000000000000000 ≤ n && n < 0x100000000000000000000000000000000

/-- Of two finds with a key each, the one with the lesser key. -/
def lesser {α : Type} (a b : Option (String × α)) : Option (String × α) :=
  match a, b with
  | some x, some y => if y.1 < x.1 then some y else some x
  | some x, none => some x
  | none, y => y

/-- The bytes of a number that has no type at all: the first such in an array, the one with the
least key in a table. -/
def unfit? (span : Span) : Value → Option Span
  | string _ | boolean _ | moment _ => none
  | garbled => some span
  | integer n => if fits128 n then none else some span
  | real x => if x.text?.isSome then none else some span
  | array _ items => unfitItem? items
  | table _ entries => (unfitMember? entries).map (·.2)
where
  /-- The first such in the items of an array. -/
  unfitItem? : List (Span × Value) → Option Span
    | [] => none
    | (s, v) :: vs => (unfit? s v).or (unfitItem? vs)
  /-- The one with the least key in the entries of a table. -/
  unfitMember? : List (String × Span × Value) → Option (String × Span)
    | [] => none
    | (k, s, v) :: es => lesser ((unfit? s v).map (k, ·)) (unfitMember? es)

end Value

end Gatekeeper.Toml
