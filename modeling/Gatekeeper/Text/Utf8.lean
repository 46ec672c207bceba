/-!
# UTF-8

Characters as bytes and back. `encode` writes a text; `decode?` reads bytes that are valid
throughout and `decodeLossy` reads any bytes, with the replacement character for each part that
begins no character.

* `first` takes the first character off a sequence of bytes. Where there is none it takes the
  longest beginning of a character, and at least one byte, so that a damaged character costs one
  replacement and never swallows the text after it.
* Overlong forms, surrogates and numbers above `U+10FFFF` are no characters: the second byte is
  checked against a range that depends on the first (`secondRange`).
-/

namespace Gatekeeper.Utf8

/-! ## Writing -/

/-- The bytes of one character: as many as its code point needs, the first telling their number. -/
def encodeChar (c : Char) : List UInt8 :=
  let n := c.toNat
  if n < 0x80 then [UInt8.ofNat n]
  else if n < 0x800 then [UInt8.ofNat (0xc0 + n / 64), UInt8.ofNat (0x80 + n % 64)]
  else if n < 0x10000 then
    [UInt8.ofNat (0xe0 + n / 4096), UInt8.ofNat (0x80 + n / 64 % 64), UInt8.ofNat (0x80 + n % 64)]
  else
    [UInt8.ofNat (0xf0 + n / 262144), UInt8.ofNat (0x80 + n / 4096 % 64),
      UInt8.ofNat (0x80 + n / 64 % 64), UInt8.ofNat (0x80 + n % 64)]

/-- The bytes of a text. -/
def encode (cs : List Char) : List UInt8 := cs.flatMap encodeChar

/-- How many bytes a text takes. -/
def byteSize (cs : List Char) : Nat := cs.foldr (fun c n => c.utf8Size + n) 0

/-! ## Reading -/

/-- The byte carries on a character that an earlier byte began. -/
def isTail (b : Nat) : Bool := 0x80 ≤ b && b ≤ 0xbf

/-- The bytes that may follow a first byte of a character of three or four bytes. -/
def secondRange (a : Nat) : Nat × Nat :=
  if a = 0xe0 then (0xa0, 0xbf)
  else if a = 0xed then (0x80, 0x9f)
  else if a = 0xf0 then (0x90, 0xbf)
  else if a = 0xf4 then (0x80, 0x8f)
  else (0x80, 0xbf)

/-- The byte may stand second, after the first byte `a`. -/
def isSecond (a b : Nat) : Bool := (secondRange a).1 ≤ b && b ≤ (secondRange a).2

/-- The character that begins with the byte `a` and goes on in `t`, if there is one, and how many
bytes of `t` were taken. -/
def first (a : UInt8) (t : List UInt8) : Option Char × Nat :=
  let a := a.toNat
  if a < 0x80 then (some (Char.ofNat a), 0)
  else if a < 0xc2 || 0xf4 < a then (none, 0)
  else match (t.take 3).map UInt8.toNat with
    | [] => (none, 0)
    | b :: t =>
      if a < 0xe0 then
        if isTail b then (some (Char.ofNat ((a - 0xc0) * 64 + (b - 0x80))), 1) else (none, 0)
      else if !isSecond a b then (none, 0)
      else match t with
        | [] => (none, 1)
        | c :: t =>
          if !isTail c then (none, 1)
          else if a < 0xf0 then
            (some (Char.ofNat ((a - 0xe0) * 4096 + (b - 0x80) * 64 + (c - 0x80))), 2)
          else match t with
            | [] => (none, 2)
            | d :: _ =>
              if isTail d then
                (some (Char.ofNat
                  ((a - 0xf0) * 262144 + (b - 0x80) * 4096 + (c - 0x80) * 64 + (d - 0x80))), 3)
              else (none, 2)

/-- The text that the bytes spell, when they spell characters throughout. -/
def decode? : List UInt8 → Option (List Char)
  | [] => some []
  | a :: t =>
    match first a t with
    | (some c, n) => (decode? (t.drop n)).map (c :: ·)
    | (none, _) => none
termination_by bs => bs.length
decreasing_by simp only [List.length_drop, List.length_cons]; omega

/-- The text that the bytes spell, with `U+FFFD` for each part that spells no character. -/
def decodeLossy : List UInt8 → List Char
  | [] => []
  | a :: t => (first a t).1.getD '\ufffd' :: decodeLossy (t.drop (first a t).2)
termination_by bs => bs.length
decreasing_by simp only [List.length_drop, List.length_cons]; omega

end Gatekeeper.Utf8
