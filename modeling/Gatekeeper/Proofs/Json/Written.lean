import Gatekeeper.Json.Magnitude
import Gatekeeper.Proofs.Json.Document
import Gatekeeper.Proofs.Numeral.Decimal

/-!
# Documents that are written

A value that is written spells itself, on one line (`spells_compact`) or over several
(`spells_pretty`), whatever characters its strings hold, as long as its numbers are spelled as
numbers (`WellSpelled`). So the text is a document of this value and of no other (`IsDocument`).
What is written on one line has no line ends in it (`onOneLine_compact`).

A natural number of 64 bits is written as a number that has just this value (`magnitude?_ofNat`).
-/

namespace Gatekeeper.Json

open Reader (isBlank)

/-! ## Strings -/

/-- A character stands in a string as itself or by its escape. -/
theorem spellsChar_stringChar (c : Char) : SpellsChar (stringChar c) c := by
  unfold stringChar
  split_ifs with quote backslash backspace tab line page back low
  -- Seven characters have an escape of one letter.
  iterate 7
    · subst c
      exact .escaped (.short (by decide))
  · -- The two digits in front are zeros.
    have high : Numeral.hexValue? (Nat.digitChar (c.toNat / 16)) = some (c.toNat / 16) :=
      Numeral.hexValue?_digitChar _ (by omega)
    have rest := Numeral.hexValue?_digitChar (c.toNat % 16) (Nat.mod_lt _ (by decide))
    refine .escaped (.numbered (.unit ⟨rfl, ?_, ?_⟩))
    · intro d hd
      simp only [List.mem_cons, List.not_mem_nil, or_false] at hd
      rcases hd with rfl | rfl | rfl | rfl
      · decide
      · decide
      · exact Numeral.isHexDigit_iff.2 ⟨_, high⟩
      · exact Numeral.isHexDigit_iff.2 ⟨_, rest⟩
    · have zero : Numeral.hexValue? '0' = some 0 := by decide
      simp only [Numeral.ofHexDigits, List.foldl_cons, List.foldl_nil, zero, high, rest,
        Option.getD_some]
      omega
  · exact .plain quote backslash (Nat.not_lt.1 low)

theorem spellsString_stringText (s : String) : SpellsString (stringText s) s := by
  have chars : ∀ cs : List Char, SpellsChars (cs.flatMap stringChar) cs := by
    intro cs
    induction cs with
    | nil => exact .nil
    | cons c cs ih => exact .cons (spellsChar_stringChar c) ih
  exact ⟨_, rfl, chars s.toList⟩

/-! ## Numbers -/

theorem isDigits_toDigits (n : Nat) : IsDigits (Nat.toDigits 10 n) :=
  ⟨Nat.toDigits_ne_nil, fun _ hd => Nat.isDigit_of_mem_toDigits (by decide) (by decide) hd⟩

theorem spellsNumber_toDigits (n : Nat) :
    SpellsNumber (Nat.toDigits 10 n) ⟨false, Nat.toDigits 10 n, [], none⟩ := by
  have lean (h : (Nat.toDigits 10 n).head? = some '0') : (Nat.toDigits 10 n).length = 1 := by
    rw [Numeral.eq_zero_of_head_toDigits h]
    rfl
  have spelled := @SpellsNumber.parts false _ _ _ _ _ (isDigits_toDigits n) lean .absent .absent
  rwa [List.append_nil, List.append_nil] at spelled

/-- The value of a number that is spelled as one. -/
def magnitude? : Json → Option Magnitude
  | number l => match Reader.number? l.toList with
    | some (x, []) => Magnitude.ofNumber? x
    | _ => none
  | _ => none

/-- Digits of a number that fits are taken to the last. -/
theorem Magnitude.accumulate_eq {ds : List Char} {n : Nat}
    (small : Nat.ofDigitChars 10 ds n < UInt64.size) :
    accumulate n ds = (Nat.ofDigitChars 10 ds n, []) := by
  induction ds generalizing n with
  | nil => rfl
  | cons d ds ih =>
    rw [Nat.ofDigitChars_cons] at small ⊢
    have front : 10 * n + (d.toNat - 0x30) < UInt64.size := by
      rw [Nat.ofDigitChars_eq_ofDigitChars_zero] at small
      have one : 1 ≤ 10 ^ ds.length := Nat.one_le_pow _ _ (by decide)
      have grows := Nat.mul_le_mul_right (10 * n + (d.toNat - '0'.toNat)) one
      rw [Nat.one_mul] at grows
      exact Nat.lt_of_le_of_lt (Nat.le_trans grows (Nat.le_add_right _ _)) small
    rw [accumulate]
    exact (if_pos front).trans (ih small)

/-- **A natural number of 64 bits** is written as the number that it is. -/
theorem magnitude?_ofNat {n : Nat} (small : n < UInt64.size) :
    (ofNat n).magnitude? = some (.integer n) := by
  have read := Reader.number?_append (spellsNumber_toDigits n) Follows.nil
  rw [List.append_nil] at read
  have value : Nat.ofDigitChars 10 (Nat.toDigits 10 n) 0 = n :=
    Nat.ofDigitChars_toDigits (by decide) (by decide)
  have taken : Magnitude.accumulate 0 (Nat.toDigits 10 n) = (n, []) := by
    rw [Magnitude.accumulate_eq (by rwa [value]), value]
  have digits : (toString n).toList = Nat.toDigits 10 n := Nat.toList_repr
  simp only [ofNat, magnitude?, digits, read, Magnitude.ofNumber?, taken]
  rfl

/-! ## Values -/

/-- Every number in the value is spelled as one. -/
inductive WellSpelled : Json → Prop
  | null : WellSpelled .null
  | bool (b : Bool) : WellSpelled (.bool b)
  | number {l : String} {x : Reader.Number} (h : SpellsNumber l.toList x) : WellSpelled (.number l)
  | string (s : String) : WellSpelled (.string s)
  | array {vs : List Json} (h : ∀ v ∈ vs, WellSpelled v) : WellSpelled (.array vs)
  | object {ms : List (String × Json)} (h : ∀ m ∈ ms, WellSpelled m.2) : WellSpelled (.object ms)

theorem wellSpelled_ofNat (n : Nat) : WellSpelled (ofNat n) := by
  have digits : (toString n).toList = Nat.toDigits 10 n := Nat.toList_repr
  exact .number (digits ▸ spellsNumber_toDigits n)

theorem isBlanks_newline (depth : Nat) : IsBlanks (newline depth) := by
  intro c hc
  rcases List.mem_cons.1 hc with rfl | hc
  · decide
  · rw [List.eq_of_mem_replicate hc]
    decide

/-- Blanks may stand behind the last item. -/
theorem SpellsItems.append_blanks {t b : List Char} {vs : List Json} (h : SpellsItems t vs)
    (blank : IsBlanks b) : SpellsItems (t ++ b) vs := by
  induction vs generalizing t with
  | nil => cases h
  | cons v vs ih =>
    cases h with
    | one h => exact .one (.padded .nil h blank)
    | cons first others =>
      rw [List.append_assoc, List.cons_append]
      exact .cons first (ih others)

theorem SpellsMembers.append_blanks {t b : List Char} {ms : List (String × Json)}
    (h : SpellsMembers t ms) (blank : IsBlanks b) : SpellsMembers (t ++ b) ms := by
  induction ms generalizing t with
  | nil => cases h
  | cons m ms ih =>
    cases h with
    | one key h =>
      rw [List.append_assoc, List.cons_append]
      exact .one key (.padded .nil h blank)
    | cons key first others =>
      rw [List.append_assoc, List.cons_append, List.append_assoc, List.cons_append]
      exact .cons key first (ih others)

theorem commaJoined_singleton (t : List Char) : commaJoined [t] = t := by
  rw [commaJoined, List.intercalate_singleton]

theorem commaJoined_cons_cons (t u : List Char) (us : List (List Char)) :
    commaJoined (t :: u :: us) = t ++ ',' :: commaJoined (u :: us) := rfl

/-- Items with commas between them. -/
theorem spellsItems_commaJoined {write : Json → List Char} {v : Json} {vs : List Json}
    (h : ∀ w ∈ v :: vs, Spells (write w) w) :
    SpellsItems (commaJoined ((v :: vs).map write)) (v :: vs) := by
  have first := h v List.mem_cons_self
  induction vs generalizing v with
  | nil =>
    rw [List.map_singleton, commaJoined_singleton]
    exact .one first
  | cons w vs ih =>
    have others : ∀ u ∈ w :: vs, Spells (write u) u := fun u hu => h u (List.mem_cons_of_mem _ hu)
    exact .cons first (ih others (others w List.mem_cons_self))

/-- A member with its name, its colon and its value. -/
def SpellsMember (t : List Char) (m : String × Json) : Prop :=
  ∃ k u, t = k ++ ':' :: u ∧ SpellsName k m.1 ∧ Spells u m.2

/-- Members with commas between them. -/
theorem spellsMembers_commaJoined {write : String × Json → List Char} {m : String × Json}
    {ms : List (String × Json)} (h : ∀ n ∈ m :: ms, SpellsMember (write n) n) :
    SpellsMembers (commaJoined ((m :: ms).map write)) (m :: ms) := by
  obtain ⟨k, u, same, key, value⟩ := h m List.mem_cons_self
  induction ms generalizing m k u with
  | nil =>
    rw [List.map_singleton, commaJoined_singleton, same]
    exact .one key value
  | cons n ms ih =>
    have others : ∀ l ∈ n :: ms, SpellsMember (write l) l :=
      fun l hl => h l (List.mem_cons_of_mem _ hl)
    obtain ⟨k', u', same', key', value'⟩ := others n List.mem_cons_self
    have next := ih others k' u' same' key' value'
    simp only [List.map_cons] at next ⊢
    rw [commaJoined_cons_cons, same, List.append_assoc, List.cons_append]
    exact .cons key value next

/-- A member may have blanks before its name and behind its colon. -/
theorem spellsMember_stringText {m : String × Json} {b b' t : List Char} (before : IsBlanks b)
    (between : IsBlanks b') (h : Spells t m.2) :
    SpellsMember (b ++ (stringText m.1 ++ ':' :: (b' ++ t))) m := by
  refine ⟨b ++ (stringText m.1 ++ []), b' ++ (t ++ []), ?_,
    .padded before (spellsString_stringText m.1) .nil, .padded between h .nil⟩
  simp

/-! ## One line -/

theorem compactItems_eq (vs : List Json) : compact.compactItems vs = vs.map compact := by
  induction vs with
  | nil => rfl
  | cons v vs ih => rw [compact.compactItems, ih, List.map_cons]

theorem compactMembers_eq (ms : List (String × Json)) :
    compact.compactMembers ms = ms.map fun m => stringText m.1 ++ ':' :: compact m.2 := by
  induction ms with
  | nil => rfl
  | cons m ms ih =>
    rw [compact.compactMembers, ih, List.map_cons, List.append_assoc]
    rfl

/-- **A value on one line spells itself.** -/
theorem spells_compact {v : Json} (h : WellSpelled v) : Spells (compact v) v := by
  induction h with
  | null => exact .null
  | bool b => exact .bool b
  | @number l x h =>
    have spelled := Spells.number h
    rwa [String.ofList_toList] at spelled
  | string s => exact .string (spellsString_stringText s)
  | @array vs h ih =>
    rw [compact, compactItems_eq]
    rcases vs with - | ⟨v, vs⟩
    · exact .emptyArray .nil
    · exact .array (spellsItems_commaJoined ih)
  | @object ms h ih =>
    rw [compact, compactMembers_eq]
    rcases ms with - | ⟨m, ms⟩
    · exact .emptyObject .nil
    · have members : ∀ n ∈ m :: ms, SpellsMember (stringText n.1 ++ ':' :: compact n.2) n :=
        fun n hn => spellsMember_stringText .nil .nil (ih n hn)
      exact .object (spellsMembers_commaJoined members)

/-! ### No line ends -/

/-- No character of the text comes before the space, so there are no line ends in it. -/
def OnOneLine (t : List Char) : Prop := ∀ c ∈ t, 0x20 ≤ c.toNat

instance (t : List Char) : Decidable (OnOneLine t) :=
  decidable_of_iff (t.all (0x20 ≤ ·.toNat) = true) (by simp [OnOneLine])

namespace OnOneLine

variable {t u : List Char} {c : Char}

theorem nil : OnOneLine [] := List.forall_mem_nil _

theorem cons (hc : 0x20 ≤ c.toNat) (h : OnOneLine t) : OnOneLine (c :: t) :=
  List.forall_mem_cons.2 ⟨hc, h⟩

theorem append (h : OnOneLine t) (h' : OnOneLine u) : OnOneLine (t ++ u) :=
  List.forall_mem_append.2 ⟨h, h'⟩

end OnOneLine

/-- What comes before the space is escaped in a string. -/
theorem onOneLine_stringChar (c : Char) : OnOneLine (stringChar c) := by
  unfold stringChar
  split_ifs with quote backslash backspace tab line page back low
  iterate 7
    · decide
  · have digit (n : Nat) (small : n < 16) : 0x20 ≤ (Nat.digitChar n).toNat := by
      have hex := Numeral.toNat_of_isHexDigit
        (Numeral.isHexDigit_iff.2 ⟨n, Numeral.hexValue?_digitChar n small⟩)
      omega
    have front : OnOneLine ['\\', 'u', '0', '0'] := by decide
    exact front.append (.cons (digit _ (by omega)) (.cons (digit _ (by omega)) .nil))
  · exact .cons (Nat.not_lt.1 low) .nil

theorem onOneLine_stringText (s : String) : OnOneLine (stringText s) := by
  have quote : OnOneLine ['"'] := by decide
  have chars : OnOneLine (s.toList.flatMap stringChar) := by
    intro c hc
    obtain ⟨d, -, hc⟩ := List.mem_flatMap.1 hc
    exact onOneLine_stringChar d c hc
  exact (quote.append chars).append quote

theorem IsDigits.onOneLine {ds : List Char} (h : IsDigits ds) : OnOneLine ds := by
  intro c hc
  have digit := h.digits c hc
  simp only [Char.isDigit, Bool.and_eq_true, decide_eq_true_eq, ge_iff_le,
    UInt32.le_iff_toNat_le] at digit
  exact Nat.le_trans (by decide) digit.1

theorem SpellsNumber.onOneLine {t : List Char} {x : Reader.Number} (h : SpellsNumber t x) :
    OnOneLine t := by
  obtain ⟨digits, -, behindPoint, power⟩ := h
  rename_i negative whole t fraction u exponent
  have sign : OnOneLine (if negative then ['-'] else []) := by
    cases negative <;> decide
  have fraction : OnOneLine t := by
    cases behindPoint with
    | absent => exact .nil
    | digits h => exact .cons (by decide) h.onOneLine
  have exponent : OnOneLine u := by
    cases power with
    | absent => exact .nil
    | @digits e sign ds negative letter h digits =>
      have signed : OnOneLine sign := by
        cases h <;> decide
      refine .cons ?_ (signed.append digits.onOneLine)
      rcases letter with rfl | rfl <;> decide
  exact sign.append (digits.onOneLine.append (fraction.append exponent))

theorem onOneLine_commaJoined {ts : List (List Char)} (h : ∀ t ∈ ts, OnOneLine t) :
    OnOneLine (commaJoined ts) := by
  induction ts with
  | nil => exact .nil
  | cons t ts ih =>
    obtain ⟨first, others⟩ := List.forall_mem_cons.1 h
    cases ts with
    | nil =>
      rw [commaJoined_singleton]
      exact first
    | cons u us =>
      rw [commaJoined_cons_cons]
      exact first.append (.cons (by decide) (ih others))

/-- **A value on one line** has no line ends in it. -/
theorem onOneLine_compact {v : Json} (h : WellSpelled v) : OnOneLine (compact v) := by
  have bracketed {opening closing : Char} {t : List Char} (h : OnOneLine t)
      (ho : 0x20 ≤ opening.toNat) (hc : 0x20 ≤ closing.toNat) :
      OnOneLine ([opening] ++ t ++ [closing]) :=
    ((OnOneLine.cons ho .nil).append h).append (.cons hc .nil)
  induction h with
  | null => decide
  | bool b => cases b <;> decide
  | number h => exact h.onOneLine
  | string s => exact onOneLine_stringText s
  | @array vs h ih =>
    rw [compact, compactItems_eq]
    have items := onOneLine_commaJoined (List.forall_mem_map.2 ih)
    exact bracketed items (by decide) (by decide)
  | @object ms h ih =>
    rw [compact, compactMembers_eq]
    have members : ∀ m ∈ ms, OnOneLine (stringText m.1 ++ ':' :: compact m.2) :=
      fun m hm => (onOneLine_stringText m.1).append (.cons (by decide) (ih m hm))
    exact bracketed (onOneLine_commaJoined (List.forall_mem_map.2 members)) (by decide) (by decide)

/-! ## Several lines -/

theorem prettyItems_eq (depth : Nat) (vs : List Json) :
    pretty.prettyItems depth vs = vs.map (pretty (depth + 1)) := by
  induction vs with
  | nil => rfl
  | cons v vs ih => rw [pretty.prettyItems, ih, List.map_cons]

/-- A member as a line of an object shows it. -/
def memberText (depth : Nat) (m : String × Json) : List Char :=
  stringText m.1 ++ ':' :: ([' '] ++ pretty (depth + 1) m.2)

theorem prettyMembers_eq (depth : Nat) (ms : List (String × Json)) :
    pretty.prettyMembers depth ms = ms.map (memberText depth) := by
  induction ms with
  | nil => rfl
  | cons m ms ih =>
    rw [pretty.prettyMembers, ih, List.map_cons, List.append_assoc]
    rfl

theorem block_cons (depth : Nat) (opening closing : Char) (t : List Char) (ts : List (List Char)) :
    block depth opening closing (t :: ts) = opening ::
      (commaJoined ((t :: ts).map (newline (depth + 1) ++ ·)) ++ newline depth ++ [closing]) := rfl

/-- **A value over several lines spells itself.** -/
theorem spells_pretty {v : Json} (h : WellSpelled v) (depth : Nat) : Spells (pretty depth v) v := by
  induction h generalizing depth with
  | null => exact spells_compact .null
  | bool b => exact spells_compact (.bool b)
  | number h => exact spells_compact (.number h)
  | string s => exact spells_compact (.string s)
  | @array vs h ih =>
    rw [pretty, prettyItems_eq]
    rcases vs with - | ⟨v, vs⟩
    · exact .emptyArray .nil
    · rw [List.map_cons, block_cons, ← List.map_cons, List.map_map]
      have items : ∀ w ∈ v :: vs, Spells (newline (depth + 1) ++ pretty (depth + 1) w) w := by
        intro w hw
        have padded := Spells.padded (isBlanks_newline (depth + 1)) (ih w hw (depth + 1)) .nil
        rwa [List.append_nil] at padded
      exact .array ((spellsItems_commaJoined items).append_blanks (isBlanks_newline depth))
  | @object ms h ih =>
    rw [pretty, prettyMembers_eq]
    rcases ms with - | ⟨m, ms⟩
    · exact .emptyObject .nil
    · rw [List.map_cons, block_cons, ← List.map_cons, List.map_map]
      have space : IsBlanks [' '] := by simp [IsBlanks, isBlank]
      have members : ∀ n ∈ m :: ms, SpellsMember (newline (depth + 1) ++ memberText depth n) n :=
        fun n hn => spellsMember_stringText (isBlanks_newline (depth + 1)) space
          (ih n hn (depth + 1))
      exact .object ((spellsMembers_commaJoined members).append_blanks (isBlanks_newline depth))

/-! ## Members -/

/-- The names of the members of an object, in their order. -/
def names : Json → List String
  | object ms => ms.map Prod.fst
  | _ => []

/-- The value of the first member with a name. -/
def member? (v : Json) (name : String) : Option Json :=
  match v with
  | object ms => ms.lookup name
  | _ => none

/-! ## Documents -/

/-- The text is one document, and this is what it says. -/
structure IsDocument (text : String) (v : Json) : Prop where
  spelled : Spells text.toList v
  /-- Nothing else is. -/
  unique : ∀ w, Spells text.toList w → w = v
  read : ofText? text.toList = some v

theorem isDocument_of_spells {text : String} {v : Json} (h : Spells text.toList v) :
    IsDocument text v :=
  ⟨h, fun _ hw => hw.unique h, ofText?_eq_some_iff.2 h⟩

theorem isDocument_toLine {v : Json} (h : WellSpelled v) : IsDocument v.toLine v := by
  refine isDocument_of_spells ?_
  rw [toLine, String.toList_ofList]
  exact spells_compact h

/-- **A value written over several lines, and the end of the last, is a document of it.** -/
theorem isDocument_toText {v : Json} (h : WellSpelled v) : IsDocument s!"{v.toText}\n" v := by
  have text : s!"{v.toText}\n".toList = pretty 0 v ++ ['\n'] := by
    rw [toText, String.toList_append]
    exact congrArg (· ++ _) String.toList_ofList
  have lineEnd : IsBlanks ['\n'] := by simp [IsBlanks, isBlank]
  refine isDocument_of_spells ?_
  rw [text]
  exact .padded .nil (spells_pretty h 0) lineEnd

end Gatekeeper.Json
