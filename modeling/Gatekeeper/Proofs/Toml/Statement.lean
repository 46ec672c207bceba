import Gatekeeper.Proofs.Toml.Scalar

/-!
# The statements of what is written

A document is written line by line: blank lines, headers of tables, and assignments of scalars
(`Line`). Its tokens are those of its lines (`tokensFrom_lines`), and its statements are those of
its lines too (`statements_lines`), each with the offsets at which it stands.

Only keys that need no quotes are written (`IsBare`).
-/

namespace Gatekeeper.Toml

open Utf8 (byteSize)

/-- The key needs no quotes. -/
def IsBare (key : String) : Prop := key.toList ≠ [] ∧ key.toList.all isKeyChar = true

instance (key : String) : Decidable (IsBare key) := inferInstanceAs (Decidable (_ ∧ _))

theorem IsBare.isToken {key : String} (h : IsBare key) {rest : List Char}
    (hr : ∃ d u, rest = d :: u ∧ endsWord d = true) : IsToken .word key.toList rest :=
  isToken_word h.1 (List.all_eq_true.1 h.2) hr

/-! ## Rows of tokens -/

/-- Texts of tokens as tokens one after another. -/
def tokensAt (offset : Nat) : List (TokenKind × List Char) → List Token
  | [] => []
  | p :: ps => ⟨p.1, p.2, offset⟩ :: tokensAt (offset + byteSize p.2) ps

/-- Each text is a token where the others and `rest` follow it. -/
def AreTokens (rest : List Char) : List (TokenKind × List Char) → Prop
  | [] => True
  | p :: ps => IsToken p.1 p.2 (ps.flatMap (·.2) ++ rest) ∧ AreTokens rest ps

theorem byteSize_append (cs ds : List Char) : byteSize (cs ++ ds) = byteSize cs + byteSize ds := by
  induction cs with
  | nil => simp [byteSize]
  | cons c cs ih =>
    simp only [byteSize, List.cons_append, List.foldr_cons] at ih ⊢
    omega

theorem tokensFrom_tokensAt {ps : List (TokenKind × List Char)} {rest : List Char}
    (h : AreTokens rest ps) (offset : Nat) :
    tokensFrom offset (ps.flatMap (·.2) ++ rest) =
      tokensAt offset ps ++ tokensFrom (offset + byteSize (ps.flatMap (·.2))) rest := by
  induction ps generalizing offset with
  | nil => rfl
  | cons p ps ih =>
    rw [List.flatMap_cons, List.append_assoc, tokensFrom_append h.1, ih h.2, byteSize_append,
      Nat.add_assoc]
    rfl

/-! ## Lines -/

/-- A line of a document. -/
inductive Line
  | blank
  | header (key : String)
  | assignment (key : String) (value : Scalar)
  deriving DecidableEq, Repr

namespace Line

/-- The line as it is written. -/
def text : Line → List Char
  | blank => ['\n']
  | header key => headerLine key
  | assignment key v => assignmentLine key v.text

/-- The keys of the line need no quotes. -/
def IsBare : Line → Prop
  | blank => True
  | header key | assignment key _ => Toml.IsBare key

/-- The texts of its tokens. -/
def pieces : Line → List (TokenKind × List Char)
  | blank => [(.newline, ['\n'])]
  | header key =>
    [(.openBracket, ['[']), (.word, key.toList), (.closeBracket, [']']), (.newline, ['\n'])]
  | assignment key v =>
    [(.word, key.toList), (.blank, [' ']), (.equals, ['=']), (.blank, [' ']), (v.kind, v.text),
      (.newline, ['\n'])]

theorem flatMap_pieces (l : Line) : l.pieces.flatMap (·.2) = l.text := by
  cases l with
  | blank => rfl
  | header key => simp [pieces, text, headerLine]
  | assignment key v => simp [pieces, text, assignmentLine]

theorem areTokens {l : Line} (h : l.IsBare) (rest : List Char) : AreTokens rest l.pieces := by
  cases l with
  | blank => exact ⟨⟨_, _, rfl, rfl⟩, trivial⟩
  | header key =>
    exact ⟨⟨_, _, rfl, rfl⟩, Toml.IsBare.isToken h ⟨_, _, rfl, by decide⟩, ⟨_, _, rfl, rfl⟩,
      ⟨_, _, rfl, rfl⟩, trivial⟩
  | assignment key v =>
    obtain ⟨c, t, hc, solid⟩ := (v.isToken rest).head v.kind_ne_blank
    refine ⟨Toml.IsBare.isToken h ⟨_, _, rfl, by decide⟩, isToken_blank rfl _, ⟨_, _, rfl, rfl⟩,
      ?_, v.isToken rest, ⟨_, _, rfl, rfl⟩, trivial⟩
    simp only [List.flatMap_cons, hc]
    exact isToken_blank solid _

/-- What the line states where it stands. -/
def statements (offset : Nat) : Line → List Statement
  | blank => []
  | header key =>
    [.header false [⟨.word, key.toList, offset + 1⟩] offset (offset + 1 + byteSize key.toList + 1)]
  | assignment key v =>
    [.assignment [⟨.word, key.toList, offset⟩]
      (.scalar ⟨v.spelling, v.text, offset + byteSize key.toList + 3⟩)]

end Line

/-! ## Statements -/

/-- The end of a line at an offset. -/
def newlineAt (offset : Nat) : Token := ⟨.newline, ['\n'], offset⟩

/-- The token of a scalar at the end of a line is read as a value. -/
theorem value_scalar (v : Scalar) (limit fuel offset offset' : Nat) (ts : List Token) :
    value limit (fuel + 1) 0 (⟨v.kind, v.text, offset⟩ :: newlineAt offset' :: ts) =
      .ok (.scalar ⟨v.spelling, v.text, offset⟩, newlineAt offset' :: ts) := by
  have word : ∀ text, value limit (fuel + 1) 0
      (⟨.word, text, offset⟩ :: newlineAt offset' :: ts) =
      .ok (.scalar ⟨.word, text, offset⟩, newlineAt offset' :: ts) := fun text => by
    have tail : wordTail (newlineAt offset' :: ts) = ([], newlineAt offset' :: ts) := by
      rw [wordTail.eq_def]
      rfl
    simp only [value, tail, List.append_nil]
  cases v with
  | string s =>
    simp only [Scalar.kind, Scalar.spelling, Scalar.text]
    cases StringStyle.of s.toList <;> simp only [StringStyle.kind, StringStyle.spelling, value]
  | boolean b => exact word _
  | natural n => exact word _

theorem header_word (key : List Char) (o a b c : Nat) (ts : List Token) :
    header o (⟨.word, key, a⟩ :: ⟨.closeBracket, [']'], b⟩ :: newlineAt c :: ts) =
      .ok (.header false [⟨.word, key, a⟩] o (b + 1), ts) := rfl

theorem assignment_scalar (key : List Char) (v : Scalar) (limit fuel a b c d e f : Nat)
    (ts : List Token) :
    assignment limit (fuel + 1) (⟨.word, key, a⟩ :: ⟨.blank, [' '], b⟩ :: ⟨.equals, ['='], c⟩ ::
        ⟨.blank, [' '], d⟩ :: ⟨v.kind, v.text, e⟩ :: newlineAt f :: ts) =
      .ok (.assignment [⟨.word, key, a⟩] (.scalar ⟨v.spelling, v.text, e⟩), ts) := by
  have keys : path true (⟨.word, key, a⟩ :: ⟨.blank, [' '], b⟩ :: ⟨.equals, ['='], c⟩ ::
        ⟨.blank, [' '], d⟩ :: ⟨v.kind, v.text, e⟩ :: newlineAt f :: ts) =
      ([⟨.word, key, a⟩], ⟨.equals, ['='], c⟩ ::
        ⟨.blank, [' '], d⟩ :: ⟨v.kind, v.text, e⟩ :: newlineAt f :: ts) := rfl
  have blanks : skipBlanks (⟨.blank, [' '], d⟩ :: ⟨v.kind, v.text, e⟩ :: newlineAt f :: ts) =
      ⟨v.kind, v.text, e⟩ :: newlineAt f :: ts := by
    rw [skipBlanks, List.dropWhile_cons_of_pos rfl,
      List.dropWhile_cons_of_neg (by simp [v.kind_ne_blank])]
  simp only [assignment, keys, blanks, if_true, value_scalar]
  rfl

namespace Line

/-- The tokens of a line are read as what it states. -/
theorem statementsOf_append (l : Line) (limit fuel offset : Nat) (ts : List Token) :
    statementsOf limit (fuel + 2) (tokensAt offset l.pieces ++ ts) =
      (statementsOf limit (fuel + 1) ts).map (l.statements offset ++ ·) := by
  cases l with
  | blank =>
    change (do checkNewline (newlineAt offset); statementsOf limit (fuel + 1) ts) = _
    cases statementsOf limit (fuel + 1) ts <;> rfl
  | header key =>
    simp only [pieces, tokensAt, statementsOf, List.cons_append, List.nil_append]
    rw [← newlineAt, header_word]
    simp only [bind, Except.bind]
    cases statementsOf limit (fuel + 1) ts <;> rfl
  | assignment key v =>
    simp only [pieces, tokensAt, statementsOf, List.cons_append, List.nil_append]
    rw [← newlineAt, assignment_scalar]
    simp only [bind, Except.bind]
    cases statementsOf limit (fuel + 1) ts <;> rfl

theorem tokensFrom_append {l : Line} (h : l.IsBare) (offset : Nat) (rest : List Char) :
    tokensFrom offset (l.text ++ rest) =
      tokensAt offset l.pieces ++ tokensFrom (offset + byteSize l.text) rest := by
  rw [← l.flatMap_pieces, tokensFrom_tokensAt (areTokens h rest)]

theorem tokensAt_ne_nil (l : Line) (offset : Nat) : tokensAt offset l.pieces ≠ [] := by
  cases l <;> exact List.cons_ne_nil _ _

/-- A line begins with no byte order mark. -/
theorem head_ne_mark {l : Line} (h : l.IsBare) : ∃ c t, l.text = c :: t ∧ c ≠ byteOrderMark := by
  cases l with
  | blank => exact ⟨_, _, rfl, by decide⟩
  | header key => exact ⟨_, _, rfl, by decide⟩
  | assignment key v =>
    obtain ⟨c, t, hc⟩ := List.exists_cons_of_ne_nil h.1
    refine ⟨c, t ++ (" = ".toList ++ v.text ++ ['\n']), ?_, ?_⟩
    · simp only [text, assignmentLine, hc, List.cons_append, List.append_assoc]
    · rintro rfl
      exact absurd (List.all_eq_true.1 h.2 _ (hc ▸ List.mem_cons_self)) (by decide)

end Line

/-! ## Documents -/

/-- Lines as they are written. -/
def linesText (ls : List Line) : List Char := ls.flatMap Line.text

/-- What lines state from an offset on. -/
def statementsAt (offset : Nat) : List Line → List Statement
  | [] => []
  | l :: ls => l.statements offset ++ statementsAt (offset + byteSize l.text) ls

theorem statementsAt_append (offset : Nat) (ls ls' : List Line) :
    statementsAt offset (ls ++ ls') =
      statementsAt offset ls ++ statementsAt (offset + byteSize (linesText ls)) ls' := by
  induction ls generalizing offset with
  | nil => rfl
  | cons l ls ih =>
    simp only [List.cons_append, statementsAt, ih, linesText, List.flatMap_cons, byteSize_append,
      Nat.add_assoc, List.append_assoc]

variable {ls : List Line}

theorem length_lt_tokensFrom (h : ∀ l ∈ ls, l.IsBare) (offset : Nat) :
    ls.length < (tokensFrom offset (linesText ls)).length := by
  induction ls generalizing offset with
  | nil => simp [linesText, tokensFrom]
  | cons l ls ih =>
    have rest := ih (fun m hm => h m (List.mem_cons_of_mem _ hm)) (offset + byteSize l.text)
    have first := List.length_pos_iff.2 (l.tokensAt_ne_nil offset)
    rw [linesText, List.flatMap_cons, Line.tokensFrom_append (h l List.mem_cons_self),
      List.length_append, List.length_cons, ← linesText]
    omega

theorem statementsOf_lines (h : ∀ l ∈ ls, l.IsBare) {fuel : Nat} (hf : ls.length < fuel)
    (limit offset : Nat) :
    statementsOf limit fuel (tokensFrom offset (linesText ls)) =
      .ok (statementsAt offset ls) := by
  induction ls generalizing fuel offset with
  | nil =>
    obtain ⟨fuel, rfl⟩ := Nat.exists_eq_add_of_lt hf
    rw [linesText, List.flatMap_nil, tokensFrom]
    rfl
  | cons l ls ih =>
    obtain ⟨fuel, rfl⟩ : ∃ n, fuel = n + 2 := ⟨fuel - 2, by rw [List.length_cons] at hf; omega⟩
    rw [linesText, List.flatMap_cons, Line.tokensFrom_append (h l List.mem_cons_self),
      Line.statementsOf_append, ← linesText, ih (fun m hm => h m (List.mem_cons_of_mem _ hm))]
    · rfl
    · rw [List.length_cons] at hf
      omega

/-- **A document of lines states what its lines state.** -/
theorem statements_lines (h : ∀ l ∈ ls, l.IsBare) :
    statements (linesText ls) = .ok (statementsAt 0 ls) := by
  have unmarked : tokens (linesText ls) = tokensFrom 0 (linesText ls) := by
    cases ls with
    | nil => rfl
    | cons l ls =>
      obtain ⟨c, t, hc, hm⟩ := Line.head_ne_mark (h l List.mem_cons_self)
      rw [linesText, List.flatMap_cons, hc, List.cons_append, tokens, if_neg hm]
  have enough := length_lt_tokensFrom h 0
  rw [statements, unmarked, statementsOf_lines h (by omega)]
  rfl

end Gatekeeper.Toml
