import Gatekeeper.Numeral.Digits
/-!
# Writing TOML

Strings and assignments in the spelling that is easiest to read.

A string is written in the first of these styles that can hold it: basic without any escape,
literal, basic block without escapes of backslashes, literal block, and at last basic with escapes,
as a block when the string has a line end. A block begins on a line of its own when the string has
a line end.

`Profile` collects what the choice depends on.
-/

namespace Gatekeeper.Toml

/-! ## The choice of a style -/

/-- The control characters that have to be escaped: all but the tab and the line feed. -/
def needsCode (c : Char) : Bool :=
  (c.toNat < 0x20 && c ≠ '\t' && c ≠ '\n') || c.toNat = 0x7f

/-- The length of the longest run of a character, where `run` of them stand before the text. -/
def longestRunFrom (q : Char) (run : Nat) : List Char → Nat
  | [] => run
  | c :: t => if c = q then longestRunFrom q (run + 1) t else max run (longestRunFrom q 0 t)

/-- The length of the longest run of a character. -/
def longestRun (q : Char) (cs : List Char) : Nat := longestRunFrom q 0 cs

/-- The styles of a string. -/
inductive StringStyle
  | basic | literal | basicBlock | literalBlock
  deriving DecidableEq, Repr

/-- The style in which a text is written. -/
def StringStyle.of (cs : List Char) : StringStyle :=
  let codes := cs.any needsCode
  let backslash := cs.contains '\\'
  let newline := cs.contains '\n'
  if !codes && !backslash && !cs.contains '"' && !newline then .basic
  else if !codes && !cs.contains '\'' && !newline then .literal
  else if !codes && !backslash && longestRun '"' cs ≤ 2 then .basicBlock
  else if !codes && longestRun '\'' cs ≤ 2 then .literalBlock
  else if newline then .basicBlock
  else .basic

/-! ## Escapes -/

/-- The character of a basic string other than a quote. -/
def basicChar (block : Bool) (c : Char) : List Char :=
  if c = '\x08' then ['\\', 'b']
  else if c = '\t' then ['\\', 't']
  else if c = '\n' then if block then ['\n'] else ['\\', 'n']
  else if c = '\x0c' then ['\\', 'f']
  else if c = '\r' then ['\\', 'r']
  else if c = '\\' then ['\\', '\\']
  else if needsCode c then ['\\', 'u'] ++ Numeral.hexDigitsUpper 4 c.toNat
  else [c]

/-- The characters of a basic string, of which `free` quotes may yet stand in a row without an
escape and `most` after any other character or an escape. -/
def basicChars (block : Bool) (most free : Nat) : List Char → List Char
  | [] => []
  | c :: t =>
    if c = '"' then
      match free with
      | 0 => '\\' :: '"' :: basicChars block most most t
      | free + 1 => '"' :: basicChars block most free t
    else basicChar block c ++ basicChars block most most t

/-! ## Strings -/

/-- Three times the same quote. -/
def blockQuotes (q : Char) : List Char := [q, q, q]

/-- The line end at the head of a block of several lines. -/
def blockLead (cs : List Char) : List Char := if cs.contains '\n' then ['\n'] else []

/-- A text in a style. -/
def styledText (style : StringStyle) (cs : List Char) : List Char :=
  match style with
  | .basic => ['"'] ++ basicChars false 0 0 cs ++ ['"']
  | .literal => ['\''] ++ cs ++ ['\'']
  | .basicBlock => blockQuotes '"' ++ blockLead cs ++ basicChars true 2 2 cs ++ blockQuotes '"'
  | .literalBlock => blockQuotes '\'' ++ blockLead cs ++ cs ++ blockQuotes '\''

/-- A string. -/
def stringText (s : String) : List Char := styledText (.of s.toList) s.toList

/-- A truth value. -/
def booleanText (b : Bool) : List Char := if b then "true".toList else "false".toList

/-! ## Statements -/

/-- The header of a table, on a line. -/
def headerLine (key : String) : List Char := ['['] ++ key.toList ++ [']', '\n']

/-- An assignment, on a line. -/
def assignmentLine (key : String) (value : List Char) : List Char :=
  key.toList ++ " = ".toList ++ value ++ ['\n']

end Gatekeeper.Toml
