import Gatekeeper.Proofs.Toml.Style
import Gatekeeper.Toml.Text

/-!
# Strings are read as they were written

`quotedText_styledText`: a string in a style that can hold it is read as the text it was made of.

Between its quotes (`between?_append`) a literal string shows plain characters only, and a basic
string is read piece by piece (`basicText_piece`). The line end at the head of a block is there
exactly when the text has one of its own, so no line end of the text is taken for it
(`leadingNewline_lead`).
-/

namespace Gatekeeper.Toml

/-- How a string of a style is spelled. -/
def StringStyle.spelling : StringStyle → Spelling
  | basic => .basic
  | literal => .literal
  | basicBlock => .basicBlock
  | literalBlock => .literalBlock

/-! ## Between the quotes -/

theorem between?_append (q : Char) (n : Nat) (body : List Char) :
    between? q n (List.replicate n q ++ body ++ List.replicate n q) = some body := by
  have size : (List.replicate n q ++ body ++ List.replicate n q).length = 2 * n + body.length := by
    simp only [List.length_append, List.length_replicate]
    omega
  have back : (List.replicate n q ++ body ++ List.replicate n q).drop (2 * n + body.length - n) =
      List.replicate n q :=
    List.drop_left' (by simp only [List.length_append, List.length_replicate]; omega)
  have front : (List.replicate n q ++ body ++ List.replicate n q).drop n =
      body ++ List.replicate n q := by
    rw [List.append_assoc]
    exact List.drop_left' List.length_replicate
  rw [between?, size, back, front, if_pos (by simp), Nat.add_sub_cancel_left, List.take_left]

theorem leadingNewline_of_notMem {cs : List Char} (h : '\n' ∉ cs) :
    leadingNewline cs = ([], cs) := by
  unfold leadingNewline
  split
  · exact absurd List.mem_cons_self h
  · exact absurd (List.mem_cons_of_mem _ List.mem_cons_self) h
  · rfl

/-- What follows the line end at the head of a block is the text, when the text shows a line end
only where it has one. -/
theorem leadingNewline_lead {cs body : List Char} (h : '\n' ∉ cs → '\n' ∉ body) :
    leadingNewline (blockLead cs ++ body) = (blockLead cs, body) := by
  unfold blockLead
  split
  · rfl
  · rename_i hn
    exact leadingNewline_of_notMem (h (by simpa using hn))

/-! ## Plain characters -/

theorem plainChar_of {block : Bool} {c : Char}
    (h : isControl c = false ∨ c = '\n' ∧ block = true) (offset : Nat) (next : Option Char) :
    plainChar block offset c next = .ok [c] := by
  unfold plainChar
  rcases h with h | ⟨rfl, rfl⟩
  · have hr : c ≠ '\r' := by
      rintro rfl
      exact absurd h (by decide)
    by_cases hn : (c = '\n' && block) = true
    · rw [if_pos hn]
    · rw [if_neg hn, if_neg (by simp [hr]), if_neg (by simp [h])]
  · rfl

theorem literalText_of {block : Bool} {cs : List Char}
    (h : ∀ c ∈ cs, isControl c = false ∨ c = '\n' ∧ block = true) (offset : Nat) :
    literalText block offset cs = .ok cs := by
  induction cs generalizing offset with
  | nil => rfl
  | cons c cs ih =>
    rw [literalText, plainChar_of (h c List.mem_cons_self)]
    simp only [bind, Except.bind, ih fun d hd => h d (List.mem_cons_of_mem _ hd)]
    rfl

/-! ## Pieces -/

variable {block : Bool}

/-- One step of the reader of a basic string. -/
theorem basicText_cons {mode mode' : BasicMode} {offset : Nat} {c : Char} {t out : List Char}
    (h : basicStep block offset c t.head? mode = .ok (out, mode')) :
    basicText block mode offset (c :: t) =
      (basicText block mode' (offset + c.utf8Size) t).map (out ++ ·) := by
  rw [basicText, h]
  simp only [bind, Except.bind]
  cases basicText block mode' (offset + c.utf8Size) t <;> rfl

theorem map_nil_append (x : Except Nat (List Char)) : x.map ([] ++ ·) = x := by
  cases x <;> rfl

/-- The digits of a numbered escape are read as the character they number. -/
theorem basicText_digits {d : Char} {ds : List Char}
    (hd : ∀ e ∈ d :: ds, Numeral.isHexDigit e = true) {v n : Nat}
    (hv : (d :: ds).foldl (fun n c => 16 * n + (Numeral.hexValue? c).getD 0) v = n)
    (hn : isScalar n = true) (start offset : Nat) (t : List Char) :
    basicText block (.digits (d :: ds).length v start) offset (d :: ds ++ t) =
      (basicText block .plain (offset + Utf8.byteSize (d :: ds)) t).map ([Char.ofNat n] ++ ·) := by
  induction ds generalizing d v offset with
  | nil =>
    obtain ⟨k, hk⟩ := Numeral.isHexDigit_iff.1 (hd d List.mem_cons_self)
    rw [List.foldl_cons, List.foldl_nil, hk, Option.getD_some] at hv
    refine basicText_cons ?_
    simp only [basicStep, digitStep, hk, List.length_singleton, hv, hn]
    rfl
  | cons e ds ih =>
    obtain ⟨k, hk⟩ := Numeral.isHexDigit_iff.1 (hd d List.mem_cons_self)
    rw [List.foldl_cons, hk, Option.getD_some] at hv
    have step : basicStep block offset d (e :: ds ++ t).head?
        (.digits (d :: e :: ds).length v start) =
        .ok ([], .digits (e :: ds).length (16 * v + k) start) := by
      simp only [basicStep, digitStep, hk, List.length_cons]
      rw [if_pos (by omega)]
      rfl
    rw [List.cons_append, basicText_cons step, map_nil_append,
      ih (fun f hf => hd f (List.mem_cons_of_mem _ hf)) hv]
    simp only [Utf8.byteSize, List.foldr_cons, Nat.add_assoc]

/-- A piece of a basic string is read as its character. -/
theorem basicText_piece {c : Char} {u : List Char} (hu : Piece block c u) (offset : Nat)
    (t : List Char) : ∃ offset', basicText block .plain offset (u ++ t) =
      (basicText block .plain offset' t).map ([c] ++ ·) := by
  have backslash : ∀ t, basicText block .plain offset ('\\' :: t) =
      basicText block .escape (offset + ('\\' : Char).utf8Size) t := fun t => by
    have step : basicStep block offset '\\' t.head? .plain = .ok ([], .escape) := rfl
    rw [basicText_cons step, map_nil_append]
  cases hu with
  | plain hq hb hc =>
    refine ⟨offset + c.utf8Size, basicText_cons ?_⟩
    simp only [basicStep, plainStep, if_neg hb, plainChar_of hc]
    rfl
  | @letter e he =>
    refine ⟨offset + ('\\' : Char).utf8Size + e.utf8Size, (backslash _).trans (basicText_cons ?_)⟩
    simp only [basicStep, escapeStep, he]
  | number hc =>
    have size := Numeral.length_hexDigitsUpper (w := 4) (by decide)
      (Nat.lt_of_lt_of_le hc (by decide : 0x80 ≤ Nat.pow 16 4))
    have value := Numeral.ofHexDigits_hexDigitsUpper 4 c.toNat
    have digits := fun (d : Char) (hd : d ∈ Numeral.hexDigitsUpper 4 c.toNat) =>
      Numeral.isHexDigit_of_mem_hexDigitsUpper hd
    have scalar : isScalar c.toNat = true := by
      simp only [isScalar, Bool.or_eq_true, decide_eq_true_eq]
      omega
    cases hds : Numeral.hexDigitsUpper 4 c.toNat with
    | nil => simp [hds] at size
    | cons d ds =>
      rw [hds] at size value digits
      have read : ∀ start offset, basicText block (.digits 4 0 start) offset (d :: ds ++ t) =
          (basicText block .plain (offset + Utf8.byteSize (d :: ds)) t).map ([c] ++ ·) := by
        intro start offset
        rw [← size, basicText_digits digits value scalar, Char.ofNat_toNat]
      have letter : ∀ offset, basicText block .escape offset ('u' :: (d :: ds ++ t)) =
          basicText block (.digits 4 0 (offset + 1)) (offset + ('u' : Char).utf8Size)
            (d :: ds ++ t) := fun offset => by
        have step : basicStep block offset 'u' (d :: ds ++ t).head? .escape =
            .ok ([], .digits 4 0 (offset + 1)) := rfl
        rw [basicText_cons step, map_nil_append]
      exact ⟨_, (backslash _).trans ((letter _).trans (read _ _))⟩

/-- A basic string is read as the text it was made of. -/
theorem basicText_basicChars (most free : Nat) (cs : List Char) (offset : Nat) :
    basicText block .plain offset (basicChars block most free cs) = .ok cs := by
  induction cs generalizing free offset with
  | nil => rfl
  | cons c cs ih =>
    rcases basicChars_cons block most free c cs with ⟨left, rfl, -, h⟩ | ⟨u, hu, h⟩
    · have step : basicStep block offset '"' (basicChars block most left cs).head? .plain =
          .ok (['"'], .plain) := by
        simp only [basicStep, plainStep, plainChar_of (c := '"') (Or.inl (by decide))]
        rfl
      rw [h, basicText_cons step, ih]
      rfl
    · obtain ⟨offset', read⟩ := basicText_piece hu offset (basicChars block most most cs)
      rw [h, read, ih]
      rfl

/-! ## Strings -/

/-- A basic string shows a line end only where its text has one. -/
theorem notMem_basicChars {block : Bool} {most free : Nat} {cs : List Char} (h : '\n' ∉ cs) :
    '\n' ∉ basicChars block most free cs := by
  induction cs generalizing free with
  | nil => exact List.not_mem_nil
  | cons c cs ih =>
    have tail : ∀ {free}, '\n' ∉ basicChars block most free cs := fun {_} =>
      ih fun hc => h (List.mem_cons_of_mem _ hc)
    rcases basicChars_cons block most free c cs with ⟨left, rfl, -, hcs⟩ | ⟨u, hu, hcs⟩
    · rw [hcs, List.mem_cons, not_or]
      exact ⟨by decide, tail⟩
    · rw [hcs, List.mem_append, not_or]
      refine ⟨fun hn => ?_, tail⟩
      cases hu with
      | plain _ _ _ => exact h (List.mem_singleton.1 hn ▸ List.mem_cons_self)
      | @letter e he =>
        have hn : '\n' = e := by simpa using hn
        rw [← hn] at he
        cases he
      | number _ =>
        have hn : '\n' ∈ Numeral.hexDigitsUpper 4 c.toNat := by simpa using hn
        exact absurd (Numeral.isHexDigit_of_mem_hexDigitsUpper hn) (by decide)

/-- **A string is read as the text it was made of**, in every style that can hold the text. -/
theorem quotedText_styledText {style : StringStyle} {cs : List Char} (h : style.Holds cs)
    (offset : Nat) : quotedText ⟨style.spelling, styledText style cs, offset⟩ = .ok cs := by
  have one : ∀ q body, between? q 1 ([q] ++ body ++ [q]) = some body := fun q body =>
    between?_append q 1 body
  have three : ∀ q body, between? q 3 (blockQuotes q ++ body ++ blockQuotes q) = some body :=
    fun q body => between?_append q 3 body
  cases style with
  | basic =>
    simp only [quotedText, StringStyle.spelling, styledText, one]
    exact basicText_basicChars 0 0 cs _
  | literal =>
    simp only [quotedText, StringStyle.spelling, styledText, one]
    exact literalText_of (fun c hc => Or.inl (isControl_of_needsCode (h.1 c hc) fun hn =>
      h.2.2 (hn ▸ hc))) _
  | basicBlock =>
    simp only [quotedText, StringStyle.spelling, styledText, List.append_assoc _ (blockLead cs),
      three, Option.map_some, leadingNewline_lead notMem_basicChars]
    exact basicText_basicChars 2 2 cs _
  | literalBlock =>
    simp only [quotedText, StringStyle.spelling, styledText, List.append_assoc _ (blockLead cs),
      three, Option.map_some, leadingNewline_lead fun hn : '\n' ∉ cs => hn]
    refine literalText_of (fun c hc => ?_) _
    by_cases hn : c = '\n'
    · exact Or.inr ⟨hn, rfl⟩
    · exact Or.inl (isControl_of_needsCode (h.1 c hc) hn)

end Gatekeeper.Toml
