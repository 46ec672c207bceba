import Gatekeeper.Numeral.Digits
/-!
# IPv4 addresses

The relaxed spelling of an IPv4 address in a host name: up to four numbers between points, each
decimal, octal after `0` or hexadecimal after `0x`, where the last one fills all remaining bytes.

* `isNumeric` decides from the last label whether a host name has to be an address.
* `parse?` reads the address as a number below `2 ^ 32`, and `text` writes it in four decimal
  numbers.
-/

namespace Gatekeeper.Url.Ipv4

/-- An octal digit. -/
def isOctal (c : Char) : Bool := '0' ≤ c && c ≤ '7'

/-- One number of an address, in the base that its first characters tell. -/
def number? (cs : List Char) : Option Nat :=
  match cs with
  | [] => none
  | '0' :: x :: ds =>
    if x = 'x' || x = 'X' then
      if ds.all Numeral.isHexDigit then some (Numeral.ofHexDigits ds) else none
    else if (x :: ds).all isOctal then some (Nat.ofDigitChars 8 (x :: ds) 0) else none
  | ds => Numeral.read? ds

/-- The labels of a host name, without the empty one after a final point. -/
def labels (cs : List Char) : List (List Char) :=
  let ls := cs.splitOn '.'
  if 1 < ls.length && ls.getLast? = some [] then ls.dropLast else ls

/-- The last label of the host name is a number, so the whole name has to be an address. -/
def isNumeric (cs : List Char) : Bool :=
  match (labels cs).getLast? with
  | some l => (!l.isEmpty && l.all Char.isDigit) || (number? l).isSome
  | none => false

/-- The address that a host name spells. -/
def parse? (cs : List Char) : Option Nat := do
  let numbers ← (labels cs).mapM number?
  let last ← numbers.getLast?
  let leading := numbers.dropLast
  let room := Nat.pow 256 (4 - leading.length)
  if 3 < leading.length || leading.any (255 < ·) || room ≤ last then none
  else some (leading.foldl (fun value n => value * 256 + n) 0 * room + last)

/-- The address in four decimal numbers. -/
def text (n : Nat) : List Char :=
  ['.'].intercalate ([n / 16777216 % 256, n / 65536 % 256, n / 256 % 256, n % 256].map
    (Nat.toDigits 10))

end Gatekeeper.Url.Ipv4
