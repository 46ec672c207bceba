/-!
# Classes of characters

The three classes that the rest of the library asks for, each by its range of code points.

* `isBlank` is the Unicode property White_Space, wider than the ASCII blanks: it holds of the
  no-break space, the ideographic space, the line separator and of `U+0085`.
* `isControl` is the general category Cc, the sixty-five control characters.
* `isAllBlank` and `lower` are their companions on texts: a text with no visible character at
  all, and the ASCII fold of letter case.

Main statements: every blank of the ASCII test `Char.isWhitespace` is blank here
(`isBlank_of_isWhitespace`), and the control characters that are also blank are exactly the six of
`isControl_and_isBlank_iff`.
-/

namespace Gatekeeper.Text

/-- The code points of the property White_Space. -/
def isBlankCode (n : Nat) : Bool :=
  (9 ≤ n && n ≤ 13) || n == 0x20 || n == 0x85 || n == 0xa0 || n == 0x1680 ||
    (0x2000 ≤ n && n ≤ 0x200a) || n == 0x2028 || n == 0x2029 || n == 0x202f ||
    n == 0x205f || n == 0x3000

/-- White space, of any script. -/
def isBlank (c : Char) : Bool := isBlankCode c.toNat

/-- A control character: those below the space, and from `U+007F` to `U+009F`. -/
def isControl (c : Char) : Bool :=
  c.toNat < 0x20 || (0x7f ≤ c.toNat && c.toNat ≤ 0x9f)

/-- A text that shows nothing: it is empty or made of white space only. -/
def isAllBlank (s : String) : Bool := s.toList.all isBlank

/-- The text with its ASCII capitals in lower case and every other character kept. -/
def lower (s : String) : String := String.ofList (s.toList.map Char.toLower)

theorem isBlank_of_isWhitespace {c : Char} (h : c.isWhitespace = true) : isBlank c = true := by
  simp only [Char.isWhitespace, Bool.or_eq_true, decide_eq_true_eq] at h
  rcases h with ((rfl | rfl) | rfl) | rfl <;> rfl

/-- Tab, line feed, vertical tab, form feed, carriage return and next line are the only control
characters that are also white space. -/
theorem isControl_and_isBlank_iff {c : Char} :
    (isControl c = true ∧ isBlank c = true) ↔ (9 ≤ c.toNat ∧ c.toNat ≤ 13) ∨ c.toNat = 0x85 := by
  simp only [isControl, isBlank, isBlankCode, Bool.or_eq_true, Bool.and_eq_true,
    decide_eq_true_eq, beq_iff_eq]
  omega

end Gatekeeper.Text
