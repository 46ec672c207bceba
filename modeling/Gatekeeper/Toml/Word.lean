import Gatekeeper.Toml.Moment
import Gatekeeper.Toml.Statement
import Gatekeeper.Toml.Value
/-!
# Words of a TOML document

What an unquoted value says: a truth value, a number, or a date or time.

Numbers may have an underscore between any two digits. An integer is decimal, or hexadecimal,
octal or binary behind `0x`, `0o` or `0b` and then without a sign; a decimal one has no leading
zero. Each reader gives the value or the offset of the first fault; a word that begins like no
value at all, or has a blank where it is no date, is at fault where it begins. An integer that is
told by its beginning alone, with no digits or other characters behind it, is `Value.garbled`.
-/

namespace Gatekeeper.Toml.Word

/-! ## Underscores -/

/-- The offset of the first underscore that does not stand between two digits, `before` being
whether a digit stands before the text. The text begins at `offset`. -/
def misplaced? (isDigit : Char → Bool) (before : Bool) (offset : Nat) : List Char → Option Nat
  | [] => none
  | c :: t =>
    if c = '_' then
      if before && (t.head?.map isDigit).getD false then
        misplaced? isDigit false (offset + 1) t
      else some offset
    else misplaced? isDigit (isDigit c) (offset + c.utf8Size) t

/-- The fault of the underscores in a text that ends before `stop`: one at its head first, which
is told of the whole word from `start` on, then one at its end, then the first of the others. -/
def underscoreFault? (isDigit : Char → Bool) (start offset stop : Nat) (cs : List Char) :
    Option Nat :=
  if cs.head? = some '_' then some start
  else if cs.getLast? = some '_' then some (stop - 1)
  else misplaced? isDigit false offset cs

/-- The characters, each with its offset. -/
def located (offset : Nat) : List Char → List (Nat × Char)
  | [] => []
  | c :: t => (offset, c) :: located (offset + c.utf8Size) t

/-- The text without underscores. -/
def unspaced (cs : List Char) : List Char := cs.filter (· ≠ '_')

/-! ## Integers of other bases -/

/-- The base that a letter after a zero names. -/
def base? (c : Char) : Option Nat :=
  match c with
  | 'x' => some 16
  | 'o' => some 8
  | 'b' => some 2
  | _ => none

/-- A digit of a base. -/
def isDigitOf (base : Nat) (c : Char) : Bool :=
  match Numeral.hexValue? c with
  | some d => d < base
  | none => false

/-- The integer that digits of a base spell between two offsets; `start` is where the word
begins. -/
def inBase (base start offset stop : Nat) (ds : List Char) : Except Nat Value :=
  if ds.contains ' ' then .error start
  else
    match (located offset ds).find? fun d => d.2 ≠ '_' && !isDigitOf base d.2 with
    | some d => .error d.1
    | none =>
      match underscoreFault? (isDigitOf base) start offset stop ds with
      | some fault => .error fault
      | none =>
        if ds.isEmpty then .ok .garbled
        else
          let n := (unspaced ds).foldl (fun n c => base * n + (Numeral.hexValue? c).getD 0) 0
          .ok (.integer (n : Nat))

/-! ## Decimal integers -/

/-- The integer that digits between two offsets spell, after a sign or not; `start` is where the
word with its sign begins, `text`. -/
def integer (negative : Bool) (start offset stop : Nat) (text ds : List Char) :
    Except Nat Value :=
  if ds.head? = some '0' && 1 < ds.length then .error offset
  else
    match underscoreFault? Numeral.isHexDigit start start stop text with
    | some fault => .error fault
    | none =>
      if (unspaced ds).all Char.isDigit then
        let n : Int := Nat.ofDigitChars 10 (unspaced ds) 0
        .ok (.integer (if negative then -n else n))
      else .ok .garbled

/-! ## Decimal fractions -/

/-- A digit or an underscore. -/
def inDigits (c : Char) : Bool := c.isDigit || c = '_'

/-- The digits at the head of some characters, and what follows them. Their lack is a fault where
they were due, `stop` being the end. -/
def someDigits (stop : Nat) (cs : List (Nat × Char)) :
    Except Nat (List Char × List (Nat × Char)) :=
  let ds := unspaced ((cs.takeWhile (inDigits ·.2)).map (·.2))
  if ds.isEmpty then .error ((cs.head?.map (·.1)).getD stop)
  else .ok (ds, cs.dropWhile (inDigits ·.2))

/-- The digits after a point, where there is one. -/
def fraction (stop : Nat) : List (Nat × Char) → Except Nat (List Char × List (Nat × Char))
  | (o, c) :: t => if c = '.' then someDigits stop t else .ok ([], (o, c) :: t)
  | [] => .ok ([], [])

/-- The sign of an exponent, whether it is negative. -/
def exponentSign : List (Nat × Char) → Bool × List (Nat × Char)
  | (o, c) :: t =>
    if c = '-' then (true, t) else if c = '+' then (false, t) else (false, (o, c) :: t)
  | [] => (false, [])

/-- An exponent, zero where there is none. -/
def exponent (stop : Nat) : List (Nat × Char) → Except Nat (Int × List (Nat × Char))
  | (o, c) :: t =>
    if c = 'e' || c = 'E' then do
      let (negative, t) := exponentSign t
      let (ds, rest) ← someDigits stop t
      let n : Int := Nat.ofDigitChars 10 ds 0
      .ok (if negative then -n else n, rest)
    else .ok (0, (o, c) :: t)
  | [] => .ok (0, [])

/-- The number with a point or an exponent that characters with their offsets spell after its
sign. -/
def real (negative : Bool) (stop : Nat) (cs : List (Nat × Char)) : Except Nat Real := do
  let (whole, t) ← someDigits stop cs
  if (cs.head?.map (·.2)) = some '0' && 1 < whole.length then
    .error ((cs.head?.map (·.1)).getD stop)
  else
    let (places, t) ← fraction stop t
    let (power, t) ← exponent stop t
    match t with
    | (o, _) :: _ => .error o
    | [] => .ok (.finite negative (Nat.ofDigitChars 10 (whole ++ places) 0) (power - places.length))

/-! ## Words -/

/-- The number, date or time whose text after a sign begins with a digit, a point or an underscore,
at an offset. What follows its first digits tells the kinds apart. -/
def numberOrMoment (r : Raw) (negative : Bool) (offset : Nat) (body : List Char) :
    Except Nat Value :=
  match body.dropWhile Char.isDigit with
  | [] => integer negative r.start offset r.stop r.text body
  | c :: t =>
    if c = '-' || c = ':' then
      if Moment.isMoment r.text then .ok (.moment (String.ofList r.text)) else .error r.start
    else if (c :: t).contains ' ' then .error r.start
    else if (c :: t).any fun c => c = '.' || c = 'e' || c = 'E' then do
      let x ← real negative r.stop (located offset body)
      match underscoreFault? Char.isDigit r.start r.start r.stop r.text with
      | some fault => .error fault
      | none => .ok (.real x)
    else if c = '_' then integer negative r.start offset r.stop r.text body
    else .error r.start

/-- The value after a sign. -/
def signed (r : Raw) (negative : Bool) (body : List Char) : Except Nat Value :=
  if body = "inf".toList then .ok (.real (.infinity negative))
  else if body = "nan".toList then .ok (.real .nan)
  else
    match body with
    | [] => .error r.start
    | c :: t =>
      if c = '+' || c = '-' then .error (r.start + 1)
      else if ['i', 'I', 'n', 'N'].contains c then
        .error (if body.contains ' ' then r.start else r.start + 1)
      else if c = '.' then .error r.start
      else if c = '0' && (t.head?.map ("xobdXOBD".toList.contains ·)).getD false then
        .error r.start
      else if c.isDigit || c = '_' then numberOrMoment r negative (r.start + 1) body
      else .error r.start

/-- The value without a sign that begins with a digit, a point or an underscore. -/
def unsigned (r : Raw) : Except Nat Value :=
  match r.text with
  | '0' :: x :: ds =>
    match base? x with
    | some base => inBase base r.start (r.start + 2) r.stop ds
    | none =>
      if ['d', 'X', 'O', 'B', 'D'].contains x then .error r.start
      else numberOrMoment r false r.start r.text
  | _ => numberOrMoment r false r.start r.text

/-- What a word says. -/
def value (r : Raw) : Except Nat Value :=
  if r.text = "true".toList then .ok (.boolean true)
  else if r.text = "false".toList then .ok (.boolean false)
  else if r.text = "inf".toList then .ok (.real (.infinity false))
  else if r.text = "nan".toList then .ok (.real .nan)
  else
    match r.text with
    | [] => .error r.start
    | c :: body =>
      if c = '+' then signed r false body
      else if c = '-' then signed r true body
      else if c.isDigit || c = '.' || c = '_' then unsigned r
      else .error r.start

end Gatekeeper.Toml.Word
