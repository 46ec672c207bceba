import Gatekeeper.Toml.Token
/-!
# Statements of a TOML document

The shape of a document: headers and assignments with their keys and values still as spelled.

`statements` refuses a document whose tokens do not stand in the order of a header or an
assignment, and gives the offset of the first one that does not. Three mistakes are left for
later, because the shape survives them: a missing key, a missing value, and a word or string that
is not well formed.

* Arrays and inline tables may run over several lines, hold comments and end in a comma.
* A word may go on over points and blanks, as dates and numbers do.
* An array or inline table that is not closed is at fault after the last token that counts.
* Values stand at most `maxDepth` deep in one another.
-/

namespace Gatekeeper.Toml

/-- How a key or value is spelled. -/
inductive Spelling
  | word | literal | literalBlock | basic | basicBlock
  /-- It is missing. -/
  | absent
  deriving DecidableEq, Repr

/-- A key or a value as it is spelled. -/
structure Raw where
  spelling : Spelling
  text : List Char
  start : Nat
  deriving DecidableEq, Repr

namespace Raw

/-- The offset after its last byte. -/
def stop (r : Raw) : Nat := r.start + Utf8.byteSize r.text

/-- What is missing before an offset. -/
def absentAt (start : Nat) : Raw := ⟨.absent, [], start⟩

end Raw

/-- A value whose parts are as they are spelled. -/
inductive RawValue
  | scalar (raw : Raw)
  | array (start stop : Nat) (items : List RawValue)
  | inlineTable (start stop : Nat) (entries : List (List Raw × RawValue))

/-- A header or an assignment. -/
inductive Statement
  /-- The header of a table, or of one more table of an array. -/
  | header (ofArray : Bool) (keys : List Raw) (start stop : Nat)
  | assignment (keys : List Raw) (value : RawValue)

/-- How deep values may stand in one another. -/
def maxDepth : Nat := 80

/-- What is read of some tokens, or the offset of the first one out of place. The error is `none`
where the steps ran out that the reading was allowed to take. -/
abbrev Reading (α : Type) := Except (Option Nat) α

/-! ## Blanks and line ends -/

/-- The tokens after blanks. -/
def skipBlanks (ts : List Token) : List Token := ts.dropWhile (·.kind = .blank)

/-- The first control character that may not stand in a comment or a string. -/
def isControl (c : Char) : Bool := (c.toNat < 0x20 && c ≠ '\t') || c.toNat = 0x7f

/-- A comment holds no control characters. -/
def checkComment (t : Token) : Reading Unit :=
  if t.text.any isControl then
    .error (some (t.start + Utf8.byteSize (t.text.takeWhile (!isControl ·))))
  else .ok ()

/-- A carriage return stands before a line feed only. -/
def checkNewline (t : Token) : Reading Unit :=
  if t.text = ['\r'] then .error (some (t.start + 1)) else .ok ()

/-- The end of a line, after a blank or a comment. -/
def lineEnd : List Token → Reading (List Token)
  | [] => .ok []
  | t :: ts =>
    match t.kind with
    | .blank => lineEnd ts
    | .comment => do checkComment t; lineEnd ts
    | .newline => do checkNewline t; .ok ts
    | .ending => .ok (t :: ts)
    | _ => .error (some t.start)

/-- The tokens after a line that is passed over up to its comment or its end. -/
def ignoredLine : List Token → Reading (List Token)
  | [] => .ok []
  | t :: ts =>
    match t.kind with
    | .comment => do checkComment t; lineEnd ts
    | .newline => do checkNewline t; .ok ts
    | .ending => .ok (t :: ts)
    | _ => ignoredLine ts

/-! ## Keys -/

/-- The spelling of a token that may be a key or a value. -/
def TokenKind.spelling? : TokenKind → Option Spelling
  | .word => some .word
  | .literal => some .literal
  | .literalBlock => some .literalBlock
  | .basic => some .basic
  | .basicBlock => some .basicBlock
  | _ => none

/-- The keys of a path with points between them, up to the first token that goes on neither with a
key where one is due nor with a point. Where no key stands, one is missing. -/
def path (keyDue : Bool) : List Token → List Raw × List Token
  | [] => ([], [])
  | t :: ts =>
    match t.kind, t.kind.spelling? with
    | .blank, _ => path keyDue ts
    | .dot, _ =>
      let (keys, rest) := path true ts
      (if keyDue then Raw.absentAt t.start :: keys else keys, rest)
    | _, some spelling =>
      if keyDue then
        let (keys, rest) := path false ts
        (⟨spelling, t.text, t.start⟩ :: keys, rest)
      else ([], t :: ts)
    | _, none => (if keyDue then [Raw.absentAt t.start] else [], t :: ts)

/-- The last key of a path is there. -/
def endsInKey (keys : List Raw) : Bool :=
  match keys.getLast? with
  | some k => k.spelling ≠ .absent
  | none => false

/-! ## Values -/

/-- The points and words that a word goes on with. A blank is passed over before a word only. -/
def wordTail : List Token → List Char × List Token
  | [] => ([], [])
  | t :: ts =>
    if t.kind = .word || t.kind = .dot then
      let (more, rest) := wordTail ts
      (t.text ++ more, rest)
    else if t.kind = .blank then
      match ts with
      | [] => ([], [t])
      | u :: us =>
        if u.kind = .word then
          let (more, rest) := wordTail us
          (t.text ++ u.text ++ more, rest)
        else ([], t :: u :: us)
    else ([], t :: ts)

/-- What an inline table goes on with. -/
inductive Due
  | key
  | equals (keys : List Raw)
  | value (keys : List Raw)
  | comma

mutual

/-- A value inside `depth` others, in at most `fuel` steps. One that is not closed is at fault at
`limit`. -/
def value (limit fuel depth : Nat) : List Token → Reading (RawValue × List Token)
  | [] => .error (some 0)
  | t :: ts =>
    match fuel with
    | 0 => .error none
    | fuel + 1 =>
      match t.kind with
      | .word | .dot =>
        let (more, rest) := wordTail ts
        .ok (.scalar ⟨.word, t.text ++ more, t.start⟩, rest)
      | .literal => .ok (.scalar ⟨.literal, t.text, t.start⟩, ts)
      | .literalBlock => .ok (.scalar ⟨.literalBlock, t.text, t.start⟩, ts)
      | .basic => .ok (.scalar ⟨.basic, t.text, t.start⟩, ts)
      | .basicBlock => .ok (.scalar ⟨.basicBlock, t.text, t.start⟩, ts)
      | .openBracket =>
        if maxDepth ≤ depth then .error (some t.start)
        else do
          let (items, stop, rest) ← items limit fuel (depth + 1) false ts
          .ok (.array t.start stop items, rest)
      | .openBrace =>
        if maxDepth ≤ depth then .error (some t.start)
        else do
          let (entries, stop, rest) ← entries limit fuel (depth + 1) .key ts
          .ok (.inlineTable t.start stop entries, rest)
      | .comment | .comma | .newline | .ending =>
        .ok (.scalar (Raw.absentAt t.start), t :: ts)
      | _ => .error (some t.start)

/-- The items of an array after its bracket or one of its items, the offset after its closing
bracket, and the tokens left. -/
def items (limit fuel depth : Nat) (commaDue : Bool) :
    List Token → Reading (List RawValue × Nat × List Token)
  | [] => .error (some 0)
  | t :: ts =>
    match fuel with
    | 0 => .error none
    | fuel + 1 =>
      match t.kind with
      | .blank => items limit fuel depth commaDue ts
      | .newline => do checkNewline t; items limit fuel depth commaDue ts
      | .comment => do checkComment t; items limit fuel depth commaDue ts
      | .closeBracket => .ok ([], t.stop, ts)
      | .comma => if commaDue then items limit fuel depth false ts else .error (some t.start)
      | .ending => .error (some limit)
      | .equals | .closeBrace => .error (some t.start)
      | _ =>
        if commaDue then .error (some t.start)
        else do
          let (item, rest) ← value limit fuel depth (t :: ts)
          let (more, stop, rest) ← items limit fuel depth true rest
          .ok (item :: more, stop, rest)

/-- The entries of an inline table where `due` comes next, the offset after its closing brace, and
the tokens left. -/
def entries (limit fuel depth : Nat) (due : Due) :
    List Token → Reading (List (List Raw × RawValue) × Nat × List Token)
  | [] => .error (some 0)
  | t :: ts =>
    match fuel with
    | 0 => .error none
    | fuel + 1 =>
      match t.kind, due with
      | .blank, _ => entries limit fuel depth due ts
      | .newline, _ => do checkNewline t; entries limit fuel depth due ts
      | .comment, _ => do checkComment t; entries limit fuel depth due ts
      | .closeBrace, .key | .closeBrace, .comma => .ok ([], t.stop, ts)
      | .comma, .comma => entries limit fuel depth .key ts
      | .equals, .equals keys => entries limit fuel depth (.value keys) ts
      | .equals, .key => entries limit fuel depth (.value [Raw.absentAt t.start]) ts
      | .ending, _ => .error (some limit)
      | .closeBracket, _ | .closeBrace, _ | .comma, _ | .equals, _ => .error (some t.start)
      | .openBracket, .key | .openBrace, .key => .error (some t.start)
      | _, .key =>
        let (keys, rest) := path true (t :: ts)
        entries limit fuel depth (.equals keys) rest
      | _, .value keys => do
        let (item, rest) ← value limit fuel depth (t :: ts)
        let (more, stop, rest) ← entries limit fuel depth .comma rest
        .ok ((keys, item) :: more, stop, rest)
      | _, _ => .error (some t.start)

end

/-! ## Statements -/

/-- Whether a second bracket follows at once, and the tokens after it. -/
def secondBracket : List Token → Bool × List Token
  | [] => (false, [])
  | t :: ts => if t.kind = .openBracket then (true, ts) else (false, t :: ts)

/-- The tokens after the brackets that close a header, and the offset after these. A header of an
array that one bracket closes is at fault after that bracket. -/
def headerEnd (ofArray : Bool) (close : Token) (ts : List Token) :
    Reading (Nat × List Token) :=
  if ofArray then
    match ts with
    | [] => .error (some close.stop)
    | t :: ts => if t.kind = .closeBracket then .ok (t.stop, ts) else .error (some close.stop)
  else .ok (close.stop, ts)

/-- The header that begins with a bracket at `start`. One that is not closed is at fault after its
last key, or left as it is when that key is missing. -/
def header (start : Nat) (ts : List Token) : Reading (Statement × List Token) :=
  let (ofArray, ts) := secondBracket ts
  let (keys, rest) := path true ts
  match rest with
  | [] => .error (some start)
  | t :: rest =>
    if t.kind = .closeBracket then do
      let (stop, rest) ← headerEnd ofArray t rest
      let rest ← lineEnd rest
      .ok (.header ofArray keys start stop, rest)
    else if endsInKey keys then .error (some ((keys.getLast?.map Raw.stop).getD start))
    else do
      let rest ← ignoredLine (t :: rest)
      .ok (.header ofArray keys start t.start, rest)

/-- The assignment that the tokens begin with. -/
def assignment (limit fuel : Nat) (ts : List Token) : Reading (Statement × List Token) :=
  let (keys, rest) := path true ts
  match rest with
  | e :: rest =>
    if e.kind = .equals then do
      let (v, rest) ← value limit fuel 0 (skipBlanks rest)
      let rest ← lineEnd rest
      .ok (.assignment keys v, rest)
    else .error (some e.start)
  | [] => .error (some 0)

/-- The statements of the tokens, in at most `fuel` steps. -/
def statementsOf (limit : Nat) : Nat → List Token → Reading (List Statement)
  | 0, _ => .error none
  | _ + 1, [] => .ok []
  | fuel + 1, t :: ts =>
    match t.kind with
    | .ending => .ok []
    | .blank => statementsOf limit fuel ts
    | .newline => do checkNewline t; statementsOf limit fuel ts
    | .comment => do checkComment t; statementsOf limit fuel ts
    | .openBracket => do
      let (s, rest) ← header t.start ts
      .ok (s :: (← statementsOf limit fuel rest))
    | .closeBracket | .comma | .openBrace | .closeBrace => .error (some t.start)
    | _ => do
      let (s, rest) ← assignment limit fuel (t :: ts)
      .ok (s :: (← statementsOf limit fuel rest))

/-- The token stands for something: it is no blank, comment or line end. -/
def Token.counts (t : Token) : Bool :=
  t.kind ≠ .blank && t.kind ≠ .comment && t.kind ≠ .newline && t.kind ≠ .ending

/-- The offset after the last token that counts. -/
def lastStop (ts : List Token) : Nat :=
  ((ts.reverse.find? Token.counts).map Token.stop).getD 0

/-- The statements of a document, or the offset of the first token out of place. Three steps for
each token are enough, so the steps never run out. -/
def statements (text : List Char) : Except Nat (List Statement) :=
  let ts := tokens text
  (statementsOf (lastStop ts) (3 * ts.length + 1) ts).mapError (·.getD 0)

end Gatekeeper.Toml
