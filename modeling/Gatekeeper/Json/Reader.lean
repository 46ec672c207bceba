import Gatekeeper.Json.Basic
/-!
# Reading JSON

Each reader takes what it reads off the front of a text and gives the rest back, or nothing when
the text does not begin with what it reads.

* `string?` reads a string after its opening quote, and joins the two escapes of a character
  outside the basic plane; an escape of half such a character is refused.
* `number?` reads a number and keeps its spelling.
* `value?` reads any value and `Json.ofText?` a whole document.
-/

namespace Gatekeeper.Json.Reader

/-- A blank between tokens. -/
def isBlank (c : Char) : Bool := c = ' ' || c = '\n' || c = '\t' || c = '\r'

/-- The text after its blanks. -/
def skipBlanks (cs : List Char) : List Char := cs.dropWhile isBlank

/-- The text after a word that it begins with. -/
def word? (w : String) (cs : List Char) : Option (List Char) :=
  if w.toList.isPrefixOf cs then some (cs.drop w.length) else none

/-! ## Strings -/

/-- The number of four hexadecimal digits. -/
def fourHex? : List Char → Option (Nat × List Char)
  | a :: b :: c :: d :: t =>
    if [a, b, c, d].all Numeral.isHexDigit then some (Numeral.ofHexDigits [a, b, c, d], t)
    else none
  | _ => none

/-- The character of a numbered escape, after its letter. -/
def numbered? (cs : List Char) : Option (Char × List Char) := do
  let (high, t) ← fourHex? cs
  if 0xd800 ≤ high && high ≤ 0xdbff then
    match t with
    | '\\' :: 'u' :: t =>
      let (low, t) ← fourHex? t
      if 0xdc00 ≤ low && low ≤ 0xdfff then
        some (Char.ofNat (0x10000 + (high - 0xd800) * 0x400 + (low - 0xdc00)), t)
      else none
    | _ => none
  else if 0xdc00 ≤ high && high ≤ 0xdfff then none
  else some (Char.ofNat high, t)

/-- The character of an escape, after its backslash. -/
def escape? : List Char → Option (Char × List Char)
  | '"' :: t => some ('"', t)
  | '\\' :: t => some ('\\', t)
  | '/' :: t => some ('/', t)
  | 'b' :: t => some ('\x08', t)
  | 'f' :: t => some ('\x0c', t)
  | 'n' :: t => some ('\n', t)
  | 'r' :: t => some ('\r', t)
  | 't' :: t => some ('\t', t)
  | 'u' :: t => numbered? t
  | _ => none

/-- The characters of a string after its opening quote, in at most as many steps as `fuel`. -/
def characters? : Nat → List Char → Option (List Char × List Char)
  | 0, _ => none
  | _ + 1, [] => none
  | fuel + 1, c :: t =>
    if c = '"' then some ([], t)
    else if c = '\\' then do
      let (c, t) ← escape? t
      let (cs, t) ← characters? fuel t
      some (c :: cs, t)
    else if c.toNat < 0x20 then none
    else do
      let (cs, t) ← characters? fuel t
      some (c :: cs, t)

/-- A string after its opening quote. -/
def string? (cs : List Char) : Option (String × List Char) :=
  (characters? cs.length cs).map fun (s, t) => (String.ofList s, t)

/-! ## Numbers -/

/-- The parts of a number as they are spelled. -/
structure Number where
  negative : Bool
  whole : List Char
  fraction : List Char := []
  /-- Whether there is an exponent, its sign and its digits. -/
  exponent : Option (Bool × List Char) := none
  deriving DecidableEq, Repr

/-- The digits after a point, one at least. -/
def fraction? (cs : List Char) : Option (List Char × List Char) :=
  match cs with
  | '.' :: t =>
    if (t.takeWhile Char.isDigit).isEmpty then none
    else some (t.takeWhile Char.isDigit, t.dropWhile Char.isDigit)
  | _ => some ([], cs)

/-- Sign and digits of an exponent, one digit at least. -/
def exponent? (cs : List Char) : Option (Option (Bool × List Char) × List Char) :=
  match cs with
  | c :: t =>
    if c = 'e' || c = 'E' then
      let (negative, t) := match t with
        | '-' :: t => (true, t)
        | '+' :: t => (false, t)
        | t => (false, t)
      if (t.takeWhile Char.isDigit).isEmpty then none
      else some (some (negative, t.takeWhile Char.isDigit), t.dropWhile Char.isDigit)
    else some (none, cs)
  | [] => some (none, cs)

/-- A number. Its whole part has no leading zero. -/
def number? (cs : List Char) : Option (Number × List Char) := do
  let (negative, t) := match cs with
    | '-' :: t => (true, t)
    | t => (false, t)
  let whole := t.takeWhile Char.isDigit
  if whole.isEmpty || (whole.head? = some '0' && whole.length ≠ 1) then none
  else
    let (fraction, t) ← fraction? (t.dropWhile Char.isDigit)
    let (exponent, t) ← exponent? t
    some (⟨negative, whole, fraction, exponent⟩, t)

/-! ## Values -/

mutual

/-- A value, with at most `fuel` values inside one another or in a row. -/
def value? : Nat → List Char → Option (Json × List Char)
  | 0, _ => none
  | fuel + 1, cs =>
    match skipBlanks cs with
    | 'n' :: t => (word? "ull" t).map (null, ·)
    | 't' :: t => (word? "rue" t).map (bool true, ·)
    | 'f' :: t => (word? "alse" t).map (bool false, ·)
    | '"' :: t => (string? t).map fun (s, t) => (string s, t)
    | '[' :: t =>
      match skipBlanks t with
      | ']' :: t => some (array [], t)
      | t => (items? fuel t).map fun (vs, t) => (array vs, t)
    | '\x7b' :: t =>
      match skipBlanks t with
      | '\x7d' :: t => some (object [], t)
      | t => (members? fuel t).map fun (ms, t) => (object ms, t)
    | t => (number? t).map fun (_, rest) =>
      (number (String.ofList (t.take (t.length - rest.length))), rest)

/-- The items of an array after its opening bracket, up to its closing one. -/
def items? : Nat → List Char → Option (List Json × List Char)
  | 0, _ => none
  | fuel + 1, cs => do
    let (v, t) ← value? fuel cs
    match skipBlanks t with
    | ',' :: t => do
      let (vs, t) ← items? fuel t
      some (v :: vs, t)
    | ']' :: t => some ([v], t)
    | _ => none

/-- The members of an object after its opening brace, up to its closing one. -/
def members? : Nat → List Char → Option (List (String × Json) × List Char)
  | 0, _ => none
  | fuel + 1, cs =>
    match skipBlanks cs with
    | '"' :: t => do
      let (k, t) ← string? t
      match skipBlanks t with
      | ':' :: t =>
        let (v, t) ← value? fuel t
        match skipBlanks t with
        | ',' :: t => do
          let (ms, t) ← members? fuel t
          some ((k, v) :: ms, t)
        | '\x7d' :: t => some ([(k, v)], t)
        | _ => none
      | _ => none
    | _ => none

end

end Reader

/-- The value that a document holds. -/
def ofText? (text : List Char) : Option Json :=
  match Reader.value? (text.length + 1) text with
  | some (v, t) => if (Reader.skipBlanks t).isEmpty then some v else none
  | none => none

end Gatekeeper.Json
