import Gatekeeper.Text.Utf8
import Gatekeeper.Toml.Value
/-!
# Reports on a TOML document

Where a fault is, for people: `headline` gives line and column, and `report` also shows the line
with the faulty bytes marked, and says what is wrong.

A column counts characters. An offset inside a character or behind the last byte is counted on
from the last whole position before it.
-/

namespace Gatekeeper.Toml

/-- Line and column of a byte, both counted from zero, where the text begins at `offset` in the
given line, whose first byte is at `lineStart`, after `column` characters of it. -/
def placeFrom (index offset line column lineStart : Nat) : List Char → Nat × Nat
  | [] => (line, column)
  | c :: t =>
    let next := offset + c.utf8Size
    if next ≤ index then
      if c = '\n' then placeFrom index next (line + 1) 0 next t
      else placeFrom index next line (column + 1) lineStart t
    else if index + 1 = next then (line, column)
    else (line, index - lineStart)

/-- Line and column of a byte of a text, both counted from zero. -/
def place (text : List Char) (index : Nat) : Nat × Nat :=
  if text.isEmpty then (0, index)
  else
    let inside := min index (Utf8.byteSize text - 1)
    let p := placeFrom inside 0 0 0 0 text
    (p.1, p.2 + (index - inside))

/-- Where a fault is. -/
def headline (text : List Char) (index : Nat) : String :=
  let p := place text index
  s!"TOML parse error at line {p.1 + 1}, column {p.2 + 1}"

/-- Blanks. -/
def blanks (n : Nat) : String := String.ofList (List.replicate n ' ')

/-- Where a fault is, its line with the faulty bytes marked, and what is wrong. At least one mark
is made, and none beyond the line. -/
def report (text : List Char) (span : Span) (message : String) : String :=
  let p := place text span.start
  let number := toString (p.1 + 1)
  let content := ((text.splitOn '\n')[p.1]?).getD []
  let marks := max 1 (min (span.stop - span.start) (Utf8.byteSize content - p.2))
  "\n".intercalate [
    headline text span.start,
    blanks (number.length + 1) ++ "|",
    number ++ " | " ++ String.ofList content,
    blanks (number.length + 1) ++ "|" ++ blanks (p.2 + 1) ++
      String.ofList (List.replicate marks '^'),
    message] ++ "\n"

end Gatekeeper.Toml
