import Gatekeeper.Numeral.Digits
/-!
# IPv6 addresses

Eight pieces of sixteen bits. `parse?` reads the text between the brackets of a host: pieces of
one to four hexadecimal digits between colons, where `::` stands once for one or more zero pieces
and the last two pieces may be an IPv4 address in four decimal numbers.

`text` writes the normal form: small digits, no leading zeros, and `::` in place of the first of
the longest runs of two or more zero pieces.
-/

namespace Gatekeeper.Url.Ipv6

/-! ## Reading -/

/-- The pieces read so far, and before which of them `::` stands. -/
structure Partial where
  pieces : List Nat := []
  gap : Option Nat := none
  deriving DecidableEq, Repr

namespace Partial

/-- How many pieces are accounted for; `::` counts as one. -/
def size (p : Partial) : Nat := p.pieces.length + if p.gap.isSome then 1 else 0

/-- One more piece. -/
def push (p : Partial) (piece : Nat) : Partial := { p with pieces := p.pieces ++ [piece] }

/-- The address, with `::` filled up to eight pieces. -/
def complete? (p : Partial) : Option (List Nat) :=
  match p.gap with
  | some k =>
    some (p.pieces.take k ++ List.replicate (8 - p.pieces.length) 0 ++ p.pieces.drop k)
  | none => if p.pieces.length = 8 then some p.pieces else none

end Partial

/-- One number of an IPv4 tail: below 256 and without a leading zero. -/
def octet? (ds : List Char) : Option Nat :=
  match Numeral.read? ds with
  | some n => if n ≤ 255 && (ds.length = 1 || ds.head? ≠ some '0') then some n else none
  | none => none

/-- The two pieces that an IPv4 tail stands for. -/
def tail? (cs : List Char) : Option (Nat × Nat) :=
  match (cs.splitOn '.').mapM octet? with
  | some [a, b, c, d] => some (a * 256 + b, c * 256 + d)
  | _ => none

/-- The digits of the piece that the text begins with. -/
def pieceDigits (cs : List Char) : List Char := (cs.take 4).takeWhile Numeral.isHexDigit

/-- Reads the pieces of the text after those already read. -/
def pieces? (p : Partial) : List Char → Option Partial
  | [] => some p
  | c :: t =>
    if p.size = 8 then none
    else if c = ':' then
      if p.gap.isSome then none else pieces? { p with gap := some p.pieces.length } t
    else
      let ds := pieceDigits (c :: t)
      match _h : (c :: t).drop ds.length with
      | [] => some (p.push (Numeral.ofHexDigits ds))
      | '.' :: _ =>
        if ds.isEmpty || 6 < p.size then none
        else (tail? (c :: t)).map fun (a, b) => (p.push a).push b
      | ':' :: u => if u.isEmpty then none else pieces? (p.push (Numeral.ofHexDigits ds)) u
      | _ => none
termination_by cs => cs.length
decreasing_by
  · simp
  · have := congrArg List.length _h
    simp only [List.length_drop, List.length_cons] at this ⊢
    omega

/-- The address that the text between brackets spells. -/
def parse? (cs : List Char) : Option (List Nat) :=
  match cs with
  | ':' :: ':' :: t => (pieces? { gap := some 0 } t).bind Partial.complete?
  | ':' :: _ => none
  | [] => none
  | [_] => none
  | cs => (pieces? {} cs).bind Partial.complete?

/-! ## Writing -/

/-- The length of the run of zero pieces at the head of a list. -/
def zeroRun (ps : List Nat) : Nat := (ps.takeWhile (· == 0)).length

/-- Where the first of the longest runs of zero pieces begins, and its length. -/
def longestRun (ps : List Nat) : Nat × Nat :=
  (List.range ps.length).foldl (fun best k =>
    if best.2 < zeroRun (ps.drop k) then (k, zeroRun (ps.drop k)) else best) (0, 0)

/-- Pieces in hexadecimal, with colons between them. -/
def joined (ps : List Nat) : List Char := [':'].intercalate (ps.map Numeral.hexDigits)

/-- The normal form of an address. -/
def text (ps : List Nat) : List Char :=
  let run := longestRun ps
  if run.2 < 2 then joined ps
  else joined (ps.take run.1) ++ [':', ':'] ++ joined (ps.drop (run.1 + run.2))

end Gatekeeper.Url.Ipv6
