import Gatekeeper.Numeral.Digits
/-!
# JSON

JSON values and how they are written, compact on one line or with an indent of two.

A string is written with the shortest escape of each character that needs one: the quote, the
backslash and the characters below the space. All other characters stand for themselves.
-/

namespace Gatekeeper

/-- A JSON value. A number is kept as it is spelled, an object in the order of its members. -/
inductive Json
  | null
  | bool (value : Bool)
  | number (literal : String)
  | string (value : String)
  | array (items : List Json)
  | object (members : List (String × Json))
  deriving Repr, Inhabited

namespace Json

/-- The number for a natural number. -/
def ofNat (n : Nat) : Json := number (toString n)

/-! ## Strings -/

/-- How a string shows one character. -/
def stringChar (c : Char) : List Char :=
  if c = '"' then ['\\', '"']
  else if c = '\\' then ['\\', '\\']
  else if c = '\x08' then ['\\', 'b']
  else if c = '\t' then ['\\', 't']
  else if c = '\n' then ['\\', 'n']
  else if c = '\x0c' then ['\\', 'f']
  else if c = '\r' then ['\\', 'r']
  else if c.toNat < 0x20 then
    ['\\', 'u', '0', '0', Nat.digitChar (c.toNat / 16), Nat.digitChar (c.toNat % 16)]
  else [c]

/-- A string with its quotes. -/
def stringText (s : String) : List Char := ['"'] ++ s.toList.flatMap stringChar ++ ['"']

/-! ## Layout -/

/-- Items with a comma between them. -/
def commaJoined (items : List (List Char)) : List Char := [','].intercalate items

/-- The value on one line, without blanks. -/
def compact : Json → List Char
  | null => "null".toList
  | bool b => (if b then "true" else "false").toList
  | number l => l.toList
  | string s => stringText s
  | array items => ['['] ++ commaJoined (compactItems items) ++ [']']
  | object members => ['\x7b'] ++ commaJoined (compactMembers members) ++ ['\x7d']
where
  /-- The items of an array. -/
  compactItems : List Json → List (List Char)
    | [] => []
    | v :: vs => compact v :: compactItems vs
  /-- The members of an object. -/
  compactMembers : List (String × Json) → List (List Char)
    | [] => []
    | (k, v) :: ms => (stringText k ++ [':'] ++ compact v) :: compactMembers ms

/-- A line break and the indent of a depth. -/
def newline (depth : Nat) : List Char := '\n' :: List.replicate (2 * depth) ' '

/-- Items one a line between brackets, nothing between them when there are none. -/
def block (depth : Nat) (opening closing : Char) (items : List (List Char)) : List Char :=
  if items.isEmpty then [opening, closing]
  else
    [opening] ++ commaJoined (items.map (newline (depth + 1) ++ ·)) ++ newline depth ++ [closing]

/-- The value over several lines, inside a given depth. -/
def pretty (depth : Nat) : Json → List Char
  | array items => block depth '[' ']' (prettyItems depth items)
  | object members => block depth '\x7b' '\x7d' (prettyMembers depth members)
  | v => compact v
where
  /-- The items of an array. -/
  prettyItems (depth : Nat) : List Json → List (List Char)
    | [] => []
    | v :: vs => pretty (depth + 1) v :: prettyItems depth vs
  /-- The members of an object. -/
  prettyMembers (depth : Nat) : List (String × Json) → List (List Char)
    | [] => []
    | (k, v) :: ms =>
      (stringText k ++ [':', ' '] ++ pretty (depth + 1) v) :: prettyMembers depth ms

/-- The value on one line. -/
def toLine (v : Json) : String := String.ofList (compact v)

/-- The value over several lines. -/
def toText (v : Json) : String := String.ofList (pretty 0 v)

end Json

end Gatekeeper
