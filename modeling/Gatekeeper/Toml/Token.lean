import Gatekeeper.Text.Utf8
/-!
# Tokens of a TOML document

`tokens` cuts a text into pieces with the byte offset of each, and an end mark after the last. No
character is lost: each token is the longest piece of its kind at its place, and what no other
kind claims is a word.

A quoted token runs to its closing quote. One that is not closed runs to the end of the line, or
of the text where it may hold line ends; whether it is well formed is not decided here.
-/

namespace Gatekeeper.Toml

/-- The kinds of tokens. -/
inductive TokenKind
  | dot | equals | comma | openBracket | closeBracket | openBrace | closeBrace
  | blank | comment | newline
  | literal | literalBlock | basic | basicBlock
  | word
  | ending
  deriving DecidableEq, Repr

/-- A piece of a document. -/
structure Token where
  kind : TokenKind
  text : List Char
  /-- The offset of its first byte. -/
  start : Nat
  deriving DecidableEq, Repr

namespace Token

/-- The offset after its last byte. -/
def stop (t : Token) : Nat := t.start + Utf8.byteSize t.text

end Token

/-! ## The extent of a token

Each function below gives how much of a text belongs to a token whose beginning was already
taken. -/

/-- Up to a single quote, or to the end of the line. -/
def literalTail : List Char → List Char
  | [] => []
  | c :: t => if c = '\'' then [c] else if c = '\n' then [] else c :: literalTail t

/-- Up to a double quote that no backslash stands before, or to the end of the line. -/
def basicTail : List Char → List Char
  | [] => []
  | '\\' :: '\\' :: t => '\\' :: '\\' :: basicTail t
  | '\\' :: '"' :: t => '\\' :: '"' :: basicTail t
  | c :: t => if c = '"' then [c] else if c = '\n' then [] else c :: basicTail t

/-- Up to two further quotes, which belong to a block that ended before them. -/
def extraQuotes (q : Char) (cs : List Char) : List Char := (cs.take 2).takeWhile (· = q)

/-- Up to three single quotes. -/
def literalBlockTail : List Char → List Char
  | [] => []
  | '\'' :: '\'' :: '\'' :: t => '\'' :: '\'' :: '\'' :: extraQuotes '\'' t
  | c :: t => c :: literalBlockTail t

/-- Up to three double quotes, the first with no backslash before it. -/
def basicBlockTail : List Char → List Char
  | [] => []
  | '\\' :: '\\' :: t => '\\' :: '\\' :: basicBlockTail t
  | '\\' :: '"' :: t => '\\' :: '"' :: basicBlockTail t
  | '"' :: '"' :: '"' :: t => '"' :: '"' :: '"' :: extraQuotes '"' t
  | c :: t => c :: basicBlockTail t

/-- A space or a tab. -/
def isBlank (c : Char) : Bool := c = ' ' || c = '\t'

/-- The character ends a word. -/
def endsWord (c : Char) : Bool := ".=,[]\x7b\x7d \t#\r\n".toList.contains c

/-- Kind of the token that begins with `c`, and how much of the text after `c` belongs to it. -/
def tokenTail (c : Char) (t : List Char) : TokenKind × List Char :=
  match c with
  | '.' => (.dot, [])
  | '=' => (.equals, [])
  | ',' => (.comma, [])
  | '[' => (.openBracket, [])
  | ']' => (.closeBracket, [])
  | '\x7b' => (.openBrace, [])
  | '\x7d' => (.closeBrace, [])
  | '\n' => (.newline, [])
  | '\r' => (.newline, (t.take 1).takeWhile (· = '\n'))
  | '#' => (.comment, t.takeWhile fun c => c ≠ '\r' && c ≠ '\n')
  | '\'' =>
    if ['\'', '\''].isPrefixOf t then
      (.literalBlock, t.take 2 ++ literalBlockTail (t.drop 2))
    else (.literal, literalTail t)
  | '"' =>
    if ['"', '"'].isPrefixOf t then (.basicBlock, t.take 2 ++ basicBlockTail (t.drop 2))
    else (.basic, basicTail t)
  | c => if isBlank c then (.blank, t.takeWhile isBlank) else (.word, t.takeWhile (!endsWord ·))

/-! ## Tokens -/

/-- The tokens of a text that begins at an offset. -/
def tokensFrom (offset : Nat) : List Char → List Token
  | [] => [⟨.ending, [], offset⟩]
  | c :: t =>
    let token : Token := ⟨(tokenTail c t).1, c :: (tokenTail c t).2, offset⟩
    token :: tokensFrom token.stop (t.drop (tokenTail c t).2.length)
termination_by cs => cs.length
decreasing_by simp only [List.length_drop, List.length_cons]; omega

/-- The mark that may stand before a text and is no part of it. -/
def byteOrderMark : Char := '\ufeff'

/-- The tokens of a document. -/
def tokens : List Char → List Token
  | [] => tokensFrom 0 []
  | c :: t => if c = byteOrderMark then tokensFrom c.utf8Size t else tokensFrom 0 (c :: t)

end Gatekeeper.Toml
