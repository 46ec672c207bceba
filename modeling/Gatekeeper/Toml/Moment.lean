import Gatekeeper.Numeral.Digits
/-!
# Dates and times

A date, a time of day, or a date and a time with or without an offset from universal time. The
seconds of a time and their fraction may be missing.
-/

namespace Gatekeeper.Toml.Moment

/-- The number of `n` digits at the head of a text, and the text after them. -/
def digits? (n : Nat) (cs : List Char) : Option (Nat × List Char) :=
  if (cs.take n).length = n && (cs.take n).all Char.isDigit then
    some (Nat.ofDigitChars 10 (cs.take n) 0, cs.drop n)
  else none

/-- The text after a character it begins with. -/
def skip? (c : Char) : List Char → Option (List Char)
  | [] => none
  | d :: t => if d = c then some t else none

/-- The year has a twenty-ninth of February. -/
def isLeap (year : Nat) : Bool := (year % 4 = 0 && year % 100 ≠ 0) || year % 400 = 0

/-- The days of a month. -/
def daysOf (year month : Nat) : Nat :=
  if month = 2 then if isLeap year then 29 else 28
  else if [4, 6, 9, 11].contains month then 30
  else 31

/-- The text after a date. -/
def date? (cs : List Char) : Option (List Char) := do
  let (year, t) ← digits? 4 cs
  let (month, t) ← digits? 2 (← skip? '-' t)
  let (day, t) ← digits? 2 (← skip? '-' t)
  if 1 ≤ month && month ≤ 12 && 1 ≤ day && day ≤ daysOf year month then some t else none

/-- The text after the fraction of a second, where there is one. -/
def fraction? : List Char → Option (List Char)
  | '.' :: t =>
    if (t.takeWhile Char.isDigit).isEmpty then none else some (t.dropWhile Char.isDigit)
  | cs => some cs

/-- The text after the seconds of a time, where there are any. -/
def seconds? : List Char → Option (List Char)
  | ':' :: t => do
    let (second, t) ← digits? 2 t
    if second ≤ 60 then fraction? t else none
  | cs => some cs

/-- The text after hours and minutes. -/
def clock? (cs : List Char) : Option (List Char) := do
  let (hour, t) ← digits? 2 cs
  let (minute, t) ← digits? 2 (← skip? ':' t)
  if hour ≤ 23 && minute ≤ 59 then some t else none

/-- The text after a time of day. -/
def time? (cs : List Char) : Option (List Char) := clock? cs |>.bind seconds?

/-- The text is an offset from universal time, or empty. -/
def isOffset (cs : List Char) : Bool :=
  match cs with
  | [] => true
  | c :: t =>
    if c = 'Z' || c = 'z' then t.isEmpty
    else if c = '+' || c = '-' then clock? t = some []
    else false

/-- The text is a date, a time or both. -/
def isMoment (cs : List Char) : Bool :=
  match date? cs with
  | some [] => true
  | some (c :: t) =>
    if c = 'T' || c = 't' || c = ' ' then
      match time? t with
      | some rest => isOffset rest
      | none => false
    else false
  | none => time? cs = some []

end Gatekeeper.Toml.Moment
