import Gatekeeper.Numeral.Digits
import Gatekeeper.Toml.Statement
/-!
# Strings of a TOML document

What a quoted token says. Each reader gives the text, or the offset of the first fault.

* A literal string means what it shows.
* A basic string may hold escapes. It is read by a machine that takes one character a step: it
  stands in plain text, after a backslash, inside a numbered escape, or in the blanks that a
  backslash at the end of a line joins over.
* A block runs over several lines. A line end right after its opening quotes is no part of it.

A string that is not closed is at fault at its end, before any other fault of it.
-/

namespace Gatekeeper.Toml

/-! ## Plain characters -/

/-- A character that stands for itself, where `next` is the character after it. A carriage return
may stand in a block only and before a line feed. -/
def plainChar (block : Bool) (offset : Nat) (c : Char) (next : Option Char) :
    Except Nat (List Char) :=
  if c = '\n' && block then .ok [c]
  else if c = '\r' && block then
    if next = some '\n' then .ok [c] else .error (offset + 1)
  else if isControl c then .error offset
  else .ok [c]

/-- The text of a literal string between its quotes. -/
def literalText (block : Bool) (offset : Nat) : List Char → Except Nat (List Char)
  | [] => .ok []
  | c :: t => do
    let out ← plainChar block offset c t.head?
    let rest ← literalText block (offset + c.utf8Size) t
    .ok (out ++ rest)

/-! ## Escapes -/

/-- Where the reader of a basic string stands. -/
inductive BasicMode
  | plain
  /-- After a backslash. -/
  | escape
  /-- Before `left` digits of a numbered escape, whose first digit is at `start`. -/
  | digits (left value start : Nat)
  /-- In the blanks after a backslash at `start`, behind the end of the line or before it. -/
  | joining (start : Nat) (brokeLine : Bool)

/-- The character that a letter after a backslash stands for. -/
def escapedChar? (c : Char) : Option Char :=
  match c with
  | 'b' => some '\x08'
  | 'e' => some '\x1b'
  | 'f' => some '\x0c'
  | 'n' => some '\n'
  | 'r' => some '\r'
  | 't' => some '\t'
  | '"' => some '"'
  | '\\' => some '\\'
  | _ => none

/-- How many digits follow a letter after a backslash. -/
def escapeDigits? (c : Char) : Option Nat :=
  match c with
  | 'x' => some 2
  | 'u' => some 4
  | 'U' => some 8
  | _ => none

/-- The number is the code point of a character. -/
def isScalar (n : Nat) : Bool := n < 0xd800 || (0xdfff < n && n < 0x110000)

/-- A step in plain text. -/
def plainStep (block : Bool) (offset : Nat) (c : Char) (next : Option Char) :
    Except Nat (List Char × BasicMode) :=
  if c = '\\' then .ok ([], .escape)
  else (plainChar block offset c next).map (·, .plain)

/-- A step in the blanks that a backslash joins over. -/
def joiningStep (block : Bool) (start : Nat) (brokeLine : Bool) (offset : Nat) (c : Char)
    (next : Option Char) : Except Nat (List Char × BasicMode) :=
  if isBlank c then .ok ([], .joining start brokeLine)
  else if c = '\n' then .ok ([], .joining start true)
  else if c = '\r' then
    if next = some '\n' then .ok ([], .joining start brokeLine) else .error (offset + 1)
  else if brokeLine then plainStep block offset c next
  else .error start

/-- A step after a backslash. -/
def escapeStep (block : Bool) (offset : Nat) (c : Char) (next : Option Char) :
    Except Nat (List Char × BasicMode) :=
  match escapedChar? c, escapeDigits? c with
  | some e, _ => .ok ([e], .plain)
  | none, some n => .ok ([], .digits n 0 (offset + 1))
  | none, none => if block then joiningStep block offset false offset c next else .error offset

/-- A step inside a numbered escape. -/
def digitStep (left value start offset : Nat) (c : Char) : Except Nat (List Char × BasicMode) :=
  match Numeral.hexValue? c with
  | none => .error offset
  | some d =>
    let value := 16 * value + d
    if 1 < left then .ok ([], .digits (left - 1) value start)
    else if isScalar value then .ok ([Char.ofNat value], .plain)
    else .error start

/-- One step of the reader: the characters it found, and where it stands then. -/
def basicStep (block : Bool) (offset : Nat) (c : Char) (next : Option Char) :
    BasicMode → Except Nat (List Char × BasicMode)
  | .plain => plainStep block offset c next
  | .escape => escapeStep block offset c next
  | .digits left value start => digitStep left value start offset c
  | .joining start brokeLine => joiningStep block start brokeLine offset c next

/-- The text of a basic string between its quotes, from where the reader stands. -/
def basicText (block : Bool) (mode : BasicMode) (offset : Nat) :
    List Char → Except Nat (List Char)
  | [] =>
    match mode with
    | .plain | .joining _ true => .ok []
    | .joining start false => .error start
    | .escape | .digits _ _ _ => .error offset
  | c :: t => do
    let (out, mode) ← basicStep block offset c t.head? mode
    let rest ← basicText block mode (offset + c.utf8Size) t
    .ok (out ++ rest)

/-! ## Quotes -/

/-- What stands between `n` quotes at either end. -/
def between? (quote : Char) (n : Nat) (text : List Char) : Option (List Char) :=
  if 2 * n ≤ text.length && text.drop (text.length - n) = List.replicate n quote then
    some ((text.drop n).take (text.length - 2 * n))
  else none

/-- A line end at the head of a block, and what follows it. -/
def leadingNewline : List Char → List Char × List Char
  | '\n' :: t => (['\n'], t)
  | '\r' :: '\n' :: t => (['\r', '\n'], t)
  | t => ([], t)

/-- What a quoted token says. -/
def quotedText (r : Raw) : Except Nat (List Char) :=
  match r.spelling with
  | .literal =>
    match between? '\'' 1 r.text with
    | some body => literalText false (r.start + 1) body
    | none => .error r.stop
  | .basic =>
    match between? '"' 1 r.text with
    | some body => basicText false .plain (r.start + 1) body
    | none => .error r.stop
  | .literalBlock =>
    match (between? '\'' 3 r.text).map leadingNewline with
    | some (newline, body) => literalText true (r.start + 3 + newline.length) body
    | none => .error r.stop
  | .basicBlock =>
    match (between? '"' 3 r.text).map leadingNewline with
    | some (newline, body) => basicText true .plain (r.start + 3 + newline.length) body
    | none => .error r.stop
  | .word | .absent => .error r.start

/-! ## Keys -/

/-- A character of a key without quotes. -/
def isKeyChar (c : Char) : Bool := c.isAlphanum || c = '-' || c = '_'

/-- The name that a key spells. A block is no key. -/
def keyName (r : Raw) : Except Nat (List Char) :=
  match r.spelling with
  | .word =>
    if r.text.all isKeyChar then .ok r.text
    else .error (r.start + Utf8.byteSize (r.text.takeWhile isKeyChar))
  | .literal | .basic => quotedText r
  | .literalBlock | .basicBlock | .absent => .error r.start

end Gatekeeper.Toml
