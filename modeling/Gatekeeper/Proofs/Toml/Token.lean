import Gatekeeper.Proofs.Toml.Style

/-!
# The tokens of what is written

A text that is a token where something else follows (`IsToken`) is cut off as that token
(`tokensFrom_append`). The parts of a document are: words, blanks and single marks, and strings in
every style that can hold them (`isToken_styledText`).

A token that begins with a quote runs to its closing quotes, so it is shown that these are found
behind the text and not in it. Basic strings are passed over piece by piece (`PassesOver.piece`). In
a block the closing quotes may follow others that belong to the text; these are the two that a block
may end in.
-/

namespace Gatekeeper.Toml

/-! ## Tokens -/

/-- The text is a token of a kind where `rest` follows it. -/
def IsToken (k : TokenKind) (text rest : List Char) : Prop :=
  ∃ c t, text = c :: t ∧ tokenTail c (t ++ rest) = (k, t)

theorem tokensFrom_append {k : TokenKind} {text rest : List Char} (h : IsToken k text rest)
    (offset : Nat) :
    tokensFrom offset (text ++ rest) =
      ⟨k, text, offset⟩ :: tokensFrom (offset + Utf8.byteSize text) rest := by
  obtain ⟨c, t, rfl, h⟩ := h
  rw [List.cons_append, tokensFrom, h, List.drop_left]
  rfl

/-- Only a token of blanks begins with a blank. -/
theorem IsToken.head {k : TokenKind} {text rest : List Char} (h : IsToken k text rest)
    (hk : k ≠ .blank) : ∃ c t, text = c :: t ∧ isBlank c = false := by
  obtain ⟨c, t, rfl, h⟩ := h
  refine ⟨c, t, rfl, ?_⟩
  cases hb : isBlank c with
  | false => rfl
  | true =>
    simp only [isBlank, Bool.or_eq_true, decide_eq_true_eq] at hb
    rcases hb with rfl | rfl <;> exact absurd (congrArg Prod.fst h).symm hk

theorem endsWord_of_isKeyChar {c : Char} (h : isKeyChar c = true) : endsWord c = false := by
  have none : ".=,[]\x7b\x7d \t#\r\n".toList.all (!isKeyChar ·) = true := by decide
  cases hc : endsWord c with
  | false => rfl
  | true =>
    have no := List.all_eq_true.1 none c (List.contains_iff_mem.1 hc)
    rw [h] at no
    cases no

/-- Characters of a key are a word where a character follows that ends words. -/
theorem isToken_word {text rest : List Char} (hne : text ≠ [])
    (h : ∀ c ∈ text, isKeyChar c = true) (hr : ∃ d u, rest = d :: u ∧ endsWord d = true) :
    IsToken .word text rest := by
  obtain ⟨d, u, rfl, hd⟩ := hr
  obtain ⟨c, t, rfl⟩ := List.exists_cons_of_ne_nil hne
  refine ⟨c, t, rfl, ?_⟩
  have hc := h c List.mem_cons_self
  have whole : (t ++ d :: u).takeWhile (!endsWord ·) = t := by
    rw [List.takeWhile_append_of_pos fun x hx => by
        simp [endsWord_of_isKeyChar (h x (List.mem_cons_of_mem _ hx))],
      List.takeWhile_cons_of_neg (by simp [hd]), List.append_nil]
  have solid : isBlank c = false := by
    cases hb : isBlank c with
    | false => rfl
    | true =>
      simp only [isBlank, Bool.or_eq_true, decide_eq_true_eq] at hb
      rcases hb with rfl | rfl <;> exact absurd hc (by decide)
  unfold tokenTail
  split
  case h_13 => simp only [solid, whole, Bool.false_eq_true, if_false]
  all_goals exact absurd hc (by decide)

theorem isToken_blank {c : Char} (h : isBlank c = false) (t : List Char) :
    IsToken .blank [' '] (c :: t) := by
  refine ⟨' ', [], rfl, ?_⟩
  have stop : (c :: t).takeWhile isBlank = [] := List.takeWhile_cons_of_neg (by simp [h])
  change (TokenKind.blank, (c :: t).takeWhile isBlank) = _
  rw [stop]

/-! ## Passing over pieces -/

/-- The scanner takes what cannot close a basic string: a character that is neither a quote nor a
backslash, and a backslash with the character behind it. -/
structure PassesOver (block : Bool) (scan : List Char → List Char) : Prop where
  free : ∀ {c : Char}, c ≠ '"' → c ≠ '\\' → (c = '\n' → block = true) →
    ∀ t, scan (c :: t) = c :: scan t
  escape : ∀ {e : Char}, e ≠ '\n' → ∀ t, scan ('\\' :: e :: t) = '\\' :: e :: scan t

namespace PassesOver

variable {block : Bool} {scan : List Char → List Char}

theorem digits (h : PassesOver block scan) {ds : List Char}
    (hd : ∀ d ∈ ds, Numeral.isHexDigit d = true) (t : List Char) :
    scan (ds ++ t) = ds ++ scan t := by
  induction ds with
  | nil => rfl
  | cons d ds ih =>
    have hex := hd d List.mem_cons_self
    have hq : d ≠ '"' := by
      rintro rfl
      exact absurd hex (by decide)
    have hb : d ≠ '\\' := by
      rintro rfl
      exact absurd hex (by decide)
    have hn : d ≠ '\n' := by
      rintro rfl
      exact absurd hex (by decide)
    rw [List.cons_append, h.free hq hb (absurd · hn),
      ih fun e he => hd e (List.mem_cons_of_mem _ he)]
    rfl

/-- A piece of a basic string is passed over. -/
theorem piece (h : PassesOver block scan) {c : Char} {u : List Char} (hu : Piece block c u)
    (t : List Char) : scan (u ++ t) = u ++ scan t := by
  cases hu with
  | plain quote backslash control =>
    refine h.free quote backslash (fun hn => ?_) t
    rcases control with hc | hc
    · rw [hn] at hc
      exact absurd hc (by decide)
    · exact hc.2
  | letter he =>
    refine h.escape (fun hn => ?_) t
    rw [hn] at he
    cases he
  | number _ =>
    rw [List.cons_append, List.cons_append, h.escape (by decide),
      h.digits fun _ hd => Numeral.isHexDigit_of_mem_hexDigitsUpper hd]
    rfl

end PassesOver

/-! ## Strings of one line -/

theorem literalTail_append {cs : List Char} (hq : '\'' ∉ cs) (hn : '\n' ∉ cs) (t : List Char) :
    literalTail (cs ++ '\'' :: t) = cs ++ ['\''] := by
  induction cs with
  | nil => rfl
  | cons c cs ih =>
    have hc : c ≠ '\'' := fun h => hq (h ▸ List.mem_cons_self)
    have hc' : c ≠ '\n' := fun h => hn (h ▸ List.mem_cons_self)
    rw [List.cons_append, literalTail, if_neg hc, if_neg hc',
      ih (fun h => hq (List.mem_cons_of_mem _ h)) (fun h => hn (List.mem_cons_of_mem _ h))]
    rfl

theorem passesOver_basicTail : PassesOver false basicTail := by
  have free : ∀ {c : Char}, c ≠ '"' → c ≠ '\\' → c ≠ '\n' →
      ∀ t, basicTail (c :: t) = c :: basicTail t := by
    intro c hq hb hn t
    rw [basicTail, if_neg hq, if_neg hn]
    · rintro _ rfl
      exact absurd rfl hb
    · rintro _ rfl
      exact absurd rfl hb
  refine ⟨fun hq hb hn => free hq hb fun h => absurd (hn h) (by decide), fun {e} he t => ?_⟩
  by_cases hb : e = '\\'
  · rw [hb, basicTail]
  by_cases hq : e = '"'
  · rw [hq, basicTail]
  · rw [basicTail, if_neg (by decide), if_neg (by decide), free hq hb he]
    · rintro _ _ h
      exact hb (List.cons.inj h).1
    · rintro _ _ h
      exact hq (List.cons.inj h).1

theorem basicTail_basicChars (cs t : List Char) :
    basicTail (basicChars false 0 0 cs ++ '"' :: t) = basicChars false 0 0 cs ++ ['"'] := by
  induction cs with
  | nil => simp [basicChars, basicTail]
  | cons c cs ih =>
    rcases basicChars_cons false 0 0 c cs with ⟨left, -, h, -⟩ | ⟨u, hu, h⟩
    · cases h
    · rw [h, List.append_assoc, passesOver_basicTail.piece hu, ih, List.append_assoc]

/-! ## Blocks -/

theorem blockLead_eq (cs : List Char) : blockLead cs = [] ∨ blockLead cs = ['\n'] := by
  unfold blockLead
  split
  · exact Or.inr rfl
  · exact Or.inl rfl

theorem passesOver_basicBlockTail : PassesOver true basicBlockTail := by
  have free : ∀ {c : Char}, c ≠ '"' → c ≠ '\\' →
      ∀ t, basicBlockTail (c :: t) = c :: basicBlockTail t := by
    intro c hq hb t
    rw [basicBlockTail]
    · rintro _ rfl
      exact absurd rfl hb
    · rintro _ rfl
      exact absurd rfl hb
    · rintro _ rfl
      exact absurd rfl hq
  refine ⟨fun hq hb _ => free hq hb, fun {e} _ t => ?_⟩
  by_cases hb : e = '\\'
  · rw [hb, basicBlockTail]
  by_cases hq : e = '"'
  · rw [hq, basicBlockTail]
  · rw [basicBlockTail, free hq hb]
    · rintro _ _ h
      exact hb (List.cons.inj h).1
    · rintro _ _ h
      exact hq (List.cons.inj h).1
    · intro _ h _
      cases h

/-- A quote that two others do not follow is part of the text. -/
theorem basicBlockTail_quote {t : List Char} (h : ∀ u, t ≠ '"' :: '"' :: u) :
    basicBlockTail ('"' :: t) = '"' :: basicBlockTail t := by
  rw [basicBlockTail]
  · rintro _ h
    cases h
  · rintro _ h
    cases h
  · intro u _
    exact h u

/-- At the end of a block up to two quotes of the text stand before those that close it. -/
theorem basicBlockTail_end {k : Nat} (hk : k ≤ 2) {rest : List Char}
    (hr : ∃ d u, rest = d :: u ∧ d ≠ '"') :
    basicBlockTail (List.replicate k '"' ++ (blockQuotes '"' ++ rest)) =
      List.replicate k '"' ++ blockQuotes '"' := by
  obtain ⟨d, u, rfl, hd⟩ := hr
  match k, hk with
  | 0, _ | 1, _ | 2, _ => simp [List.replicate, blockQuotes, basicBlockTail, extraQuotes, hd]

theorem basicBlockTail_basicChars {free : Nat} (hf : free ≤ 2) (cs : List Char)
    {rest : List Char} (hr : ∃ d u, rest = d :: u ∧ d ≠ '"') :
    basicBlockTail (basicChars true 2 free cs ++ (blockQuotes '"' ++ rest)) =
      basicChars true 2 free cs ++ blockQuotes '"' := by
  induction cs generalizing free with
  | nil => exact basicBlockTail_end (Nat.zero_le 2) hr
  | cons c cs ih =>
    rcases basicChars_cons true 2 free c cs with ⟨left, -, hl, h⟩ | ⟨u, hu, h⟩
    · -- Two quotes can follow this one only where the text ends.
      rw [h, List.cons_append]
      rcases cs with - | ⟨d, cs⟩
      · exact basicBlockTail_end (k := 1) (by omega) hr
      rcases basicChars_cons true 2 left d cs with ⟨left', -, hl', h'⟩ | ⟨v, hv, h'⟩
      · obtain rfl : left' = 0 := by omega
        rcases cs with - | ⟨e, cs⟩
        · rw [h']
          exact basicBlockTail_end (k := 2) (by omega) hr
        rcases basicChars_cons true 2 0 e cs with ⟨left'', -, hl'', -⟩ | ⟨x, hx, h''⟩
        · cases hl''
        · obtain ⟨y, z, rfl, hy⟩ := hx.head
          rw [basicBlockTail_quote, ih (by omega)]
          · rfl
          · intro t ht
            rw [h', h''] at ht
            exact hy (List.cons.inj (List.cons.inj ht).2).1
      · obtain ⟨y, z, rfl, hy⟩ := hv.head
        rw [basicBlockTail_quote, ih (by omega)]
        · rfl
        · intro t ht
          rw [h'] at ht
          exact hy (List.cons.inj ht).1
    · rw [h, List.append_assoc, passesOver_basicBlockTail.piece hu, ih (Nat.le_refl 2),
        List.append_assoc]

theorem literalBlockTail_cons {c : Char} {t : List Char}
    (h : ∀ u, c :: t ≠ '\'' :: '\'' :: '\'' :: u) :
    literalBlockTail (c :: t) = c :: literalBlockTail t := by
  rw [literalBlockTail]
  rintro u rfl rfl
  exact h u rfl

theorem literalBlockTail_end {k : Nat} (hk : k ≤ 2) {rest : List Char}
    (hr : ∃ d u, rest = d :: u ∧ d ≠ '\'') :
    literalBlockTail (List.replicate k '\'' ++ (blockQuotes '\'' ++ rest)) =
      List.replicate k '\'' ++ blockQuotes '\'' := by
  obtain ⟨d, u, rfl, hd⟩ := hr
  match k, hk with
  | 0, _ | 1, _ | 2, _ => simp [List.replicate, blockQuotes, literalBlockTail, extraQuotes, hd]

theorem literalBlockTail_append {cs : List Char}
    (h : ∀ before after, cs ≠ before ++ '\'' :: '\'' :: '\'' :: after) {rest : List Char}
    (hr : ∃ d u, rest = d :: u ∧ d ≠ '\'') :
    literalBlockTail (cs ++ (blockQuotes '\'' ++ rest)) = cs ++ blockQuotes '\'' := by
  induction cs with
  | nil => exact literalBlockTail_end (Nat.zero_le 2) hr
  | cons c cs ih =>
    by_cases hc : ∃ u, c :: (cs ++ (blockQuotes '\'' ++ rest)) = '\'' :: '\'' :: '\'' :: u
    · obtain ⟨u, hu⟩ := hc
      obtain ⟨rfl, two⟩ := List.cons.inj hu
      -- The text ends within these three quotes.
      rcases cs with - | ⟨d, - | ⟨e, after⟩⟩
      · exact literalBlockTail_end (k := 1) (by omega) hr
      · obtain ⟨rfl, -⟩ := List.cons.inj two
        exact literalBlockTail_end (k := 2) (by omega) hr
      · obtain ⟨rfl, one⟩ := List.cons.inj two
        obtain ⟨rfl, -⟩ := List.cons.inj one
        exact absurd rfl (h [] after)
    · rw [List.cons_append, literalBlockTail_cons fun u hu => hc ⟨u, hu⟩,
        ih fun before after hcs => h (c :: before) after (congrArg (c :: ·) hcs)]
      rfl

/-! ## Strings -/

/-- The kind of the token that a string of a style is. -/
def StringStyle.kind : StringStyle → TokenKind
  | basic => .basic
  | literal => .literal
  | basicBlock => .basicBlock
  | literalBlock => .literalBlock

/-- No block begins where a single quote is followed by a text without quotes at its head. -/
theorem not_isPrefixOf_quotes {q : Char} {body t : List Char} (hq : q ≠ '\n')
    (h : ∀ c u, body = c :: u → c ≠ q) :
    ¬[q, q].isPrefixOf (body ++ q :: '\n' :: t) = true := by
  rcases body with - | ⟨c, u⟩
  · simp [List.isPrefixOf, hq]
  · simp [List.isPrefixOf, (h c u rfl).symm]

theorem basicChars_head {cs : List Char} {c : Char} {u : List Char}
    (h : basicChars false 0 0 cs = c :: u) : c ≠ '"' := by
  rcases cs with - | ⟨d, cs⟩
  · cases h
  rcases basicChars_cons false 0 0 d cs with ⟨left, -, hl, -⟩ | ⟨v, hv, h'⟩
  · cases hl
  · obtain ⟨x, y, rfl, hx⟩ := hv.head
    rw [h'] at h
    exact (List.cons.inj h).1 ▸ hx

/-- A string in a style that can hold it is a token at the end of a line. -/
theorem isToken_styledText {style : StringStyle} {cs : List Char} (h : style.Holds cs)
    (t : List Char) : IsToken style.kind (styledText style cs) ('\n' :: t) := by
  have ends : ∀ {q : Char}, '\n' ≠ q → ∃ d u, '\n' :: t = d :: u ∧ d ≠ q :=
    fun hq => ⟨_, _, rfl, hq⟩
  cases style with
  | basic =>
    refine ⟨'"', basicChars false 0 0 cs ++ ['"'], rfl, ?_⟩
    rw [List.append_assoc, List.singleton_append]
    simp only [tokenTail]
    rw [if_neg (not_isPrefixOf_quotes (by decide) fun _ _ => basicChars_head), basicTail_basicChars]
    rfl
  | literal =>
    obtain ⟨-, hq, hn⟩ := h
    refine ⟨'\'', cs ++ ['\''], rfl, ?_⟩
    rw [List.append_assoc, List.singleton_append]
    simp only [tokenTail]
    rw [if_neg (not_isPrefixOf_quotes (by decide) fun c u hc => ?_), literalTail_append hq hn]
    · rfl
    · rintro rfl
      exact hq (hc ▸ List.mem_cons_self)
  | basicBlock =>
    have whole : styledText .basicBlock cs = '"' :: '"' :: '"' ::
        (blockLead cs ++ (basicChars true 2 2 cs ++ blockQuotes '"')) := by
      simp [styledText, blockQuotes]
    have tail : basicBlockTail (blockLead cs ++ (basicChars true 2 2 cs ++
          (blockQuotes '"' ++ '\n' :: t))) =
        blockLead cs ++ (basicChars true 2 2 cs ++ blockQuotes '"') := by
      rw [← basicBlockTail_basicChars (Nat.le_refl 2) cs (ends (by decide))]
      rcases blockLead_eq cs with hl | hl
      · rw [hl]
        rfl
      · rw [hl]
        exact passesOver_basicBlockTail.free (by decide) (by decide) (fun _ => rfl) _
    refine ⟨_, _, whole, ?_⟩
    rw [List.cons_append, List.cons_append, List.append_assoc, List.append_assoc]
    change (TokenKind.basicBlock, '"' :: '"' :: basicBlockTail (blockLead cs ++ _)) = _
    rw [tail]
    rfl
  | literalBlock =>
    have whole : styledText .literalBlock cs = '\'' :: '\'' :: '\'' ::
        (blockLead cs ++ (cs ++ blockQuotes '\'')) := by
      simp [styledText, blockQuotes]
    have tail : literalBlockTail (blockLead cs ++ (cs ++ (blockQuotes '\'' ++ '\n' :: t))) =
        blockLead cs ++ (cs ++ blockQuotes '\'') := by
      rw [← literalBlockTail_append (ne_of_longestRun_le h.2) (ends (by decide))]
      rcases blockLead_eq cs with hl | hl
      · rw [hl]
        rfl
      · rw [hl]
        exact literalBlockTail_cons fun _ hu => absurd (List.cons.inj hu).1 (by decide)
    refine ⟨_, _, whole, ?_⟩
    rw [List.cons_append, List.cons_append, List.append_assoc, List.append_assoc]
    change (TokenKind.literalBlock, '\'' :: '\'' :: literalBlockTail (blockLead cs ++ _)) = _
    rw [tail]
    rfl

end Gatekeeper.Toml
