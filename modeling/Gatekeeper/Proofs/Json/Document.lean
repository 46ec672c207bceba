import Gatekeeper.Proofs.Json.Token
import Mathlib.Data.List.DropRight

/-!
# Documents of JSON

The texts that spell a value (`Spells`), said without the reader: blanks may stand around any value
and around the name of a member, commas between items and between members, a colon behind a name.

The reader reads exactly these texts, and each of them as the value that it spells
(`ofText?_eq_some_iff`), so no text spells two values (`Spells.unique`).
-/

namespace Gatekeeper.Json

open Reader (skipBlanks isBlank value? items? members?)

/-- Nothing but blanks. -/
def IsBlanks (b : List Char) : Prop := ∀ c ∈ b, isBlank c = true

/-- The name of a member, with blanks before it and behind it. -/
inductive SpellsName : List Char → String → Prop
  | padded {b t b' : List Char} {name : String} (before : IsBlanks b) (h : SpellsString t name)
    (behind : IsBlanks b') : SpellsName (b ++ (t ++ b')) name

mutual

/-- A value. -/
inductive Spells : List Char → Json → Prop
  | null : Spells "null".toList .null
  | bool (b : Bool) : Spells (if b then "true" else "false").toList (.bool b)
  | number {t : List Char} {x : Reader.Number} (h : SpellsNumber t x) :
    Spells t (.number (String.ofList t))
  | string {t : List Char} {s : String} (h : SpellsString t s) : Spells t (.string s)
  | emptyArray {b : List Char} (blank : IsBlanks b) : Spells ('[' :: (b ++ [']'])) (.array [])
  | array {t : List Char} {vs : List Json} (h : SpellsItems t vs) :
    Spells ('[' :: (t ++ [']'])) (.array vs)
  | emptyObject {b : List Char} (blank : IsBlanks b) :
    Spells ('\x7b' :: (b ++ ['\x7d'])) (.object [])
  | object {t : List Char} {ms : List (String × Json)} (h : SpellsMembers t ms) :
    Spells ('\x7b' :: (t ++ ['\x7d'])) (.object ms)
  | padded {b t b' : List Char} {v : Json} (before : IsBlanks b) (h : Spells t v)
    (behind : IsBlanks b') : Spells (b ++ (t ++ b')) v

/-- The items of an array, one at least. -/
inductive SpellsItems : List Char → List Json → Prop
  | one {t : List Char} {v : Json} (h : Spells t v) : SpellsItems t [v]
  | cons {t u : List Char} {v : Json} {vs : List Json} (first : Spells t v)
    (others : SpellsItems u vs) : SpellsItems (t ++ ',' :: u) (v :: vs)

/-- The members of an object, one at least. -/
inductive SpellsMembers : List Char → List (String × Json) → Prop
  | one {k t : List Char} {name : String} {v : Json} (key : SpellsName k name) (h : Spells t v) :
    SpellsMembers (k ++ ':' :: t) [(name, v)]
  | cons {k t u : List Char} {name : String} {v : Json} {ms : List (String × Json)}
    (key : SpellsName k name) (first : Spells t v) (others : SpellsMembers u ms) :
    SpellsMembers (k ++ ':' :: (t ++ ',' :: u)) ((name, v) :: ms)

end

variable {b t u cs rest : List Char} {v : Json} {vs : List Json} {ms : List (String × Json)}
  {fuel : Nat}

/-! ## Blanks -/

theorem IsBlanks.nil : IsBlanks [] := fun _ hc => absurd hc List.not_mem_nil

theorem IsBlanks.append {b' : List Char} (h : IsBlanks b) (h' : IsBlanks b') :
    IsBlanks (b ++ b') := by
  intro c hc
  rcases List.mem_append.1 hc with hc | hc
  · exact h c hc
  · exact h' c hc

theorem isBlanks_iff_skipBlanks : IsBlanks b ↔ skipBlanks b = [] := by
  rw [skipBlanks, List.dropWhile_eq_nil_iff, IsBlanks]

theorem skipBlanks_append (h : IsBlanks b) (cs : List Char) :
    skipBlanks (b ++ cs) = skipBlanks cs :=
  List.dropWhile_append_of_pos h

theorem skipBlanks_cons {c : Char} (h : isBlank c = false) (cs : List Char) :
    skipBlanks (c :: cs) = c :: cs :=
  List.dropWhile_cons_of_neg (by simp [h])

theorem skipBlanks_append_cons (h : IsBlanks b) {c : Char} (solid : isBlank c = false)
    (cs : List Char) : skipBlanks (b ++ c :: cs) = c :: cs := by
  rw [skipBlanks_append h, skipBlanks_cons solid]

theorem skipBlanks_skipBlanks (cs : List Char) : skipBlanks (skipBlanks cs) = skipBlanks cs :=
  List.dropWhile_idempotent _ _

theorem exists_blanks (cs : List Char) : ∃ b, IsBlanks b ∧ cs = b ++ skipBlanks cs :=
  ⟨cs.takeWhile isBlank, fun _ hc => List.mem_takeWhile_imp hc,
    List.takeWhile_append_dropWhile.symm⟩

theorem Follows.nil : Follows [] := fun _ hc => absurd hc (by simp)

theorem Follows.of_blanks (h : IsBlanks b) (follows : Follows rest) : Follows (b ++ rest) := by
  rcases b with - | ⟨c, b⟩
  · exact follows
  · rintro c ⟨⟩
    exact .inl (h _ List.mem_cons_self)

theorem Follows.cons {c : Char} (h : c = ',' ∨ c = ']' ∨ c = '\x7d') (rest : List Char) :
    Follows (c :: rest) := by
  rintro c ⟨⟩
  exact .inr h

/-! ## Where a value begins -/

/-- Behind its blanks the text begins with no closing bracket. -/
def Opens (t : List Char) : Prop := ∃ c u, skipBlanks t = c :: u ∧ c ≠ ']' ∧ c ≠ '\x7d'

theorem Opens.head {c : Char} (solid : isBlank c = false) (other : c ≠ ']' ∧ c ≠ '\x7d')
    (u : List Char) : Opens (c :: u) :=
  ⟨c, u, skipBlanks_cons solid u, other⟩

theorem Opens.padded (blank : IsBlanks b) (h : Opens t) : Opens (b ++ t) := by
  rwa [Opens, skipBlanks_append blank]

theorem Opens.append (h : Opens t) (rest : List Char) : Opens (t ++ rest) := by
  obtain ⟨c, u, front, other⟩ := h
  refine ⟨c, u ++ rest, ?_, other⟩
  rw [skipBlanks, List.dropWhile_append, ← skipBlanks, front]
  rfl

theorem Opens.length_pos (h : Opens t) : 0 < t.length := by
  obtain ⟨c, u, front, -⟩ := h
  rcases t with - | ⟨d, t⟩
  · cases front
  · exact Nat.succ_pos _

/-- A number begins with a digit or with a minus. -/
theorem SpellsNumber.exists_cons {x : Reader.Number} (h : SpellsNumber t x) :
    ∃ c u, t = c :: u ∧ (c = '-' ∨ c.isDigit = true) := by
  obtain ⟨digits, lean, behindPoint, power⟩ := h
  rename_i negative whole t fraction w exponent
  obtain ⟨c, v, rfl, digit⟩ := digits.exists_cons
  cases negative with
  | true => exact ⟨'-', _, rfl, .inl rfl⟩
  | false => exact ⟨c, _, rfl, .inr digit⟩

/-- No other character begins one. -/
theorem ne_of_beginsNumber {c d : Char} (h : c = '-' ∨ c.isDigit = true)
    (other : d ≠ '-' ∧ d.isDigit = false) : c ≠ d := by
  rintro rfl
  rcases h with rfl | digit
  · exact other.1 rfl
  · exact Bool.noConfusion (digit.symm.trans other.2)

theorem not_isBlank_of_beginsNumber {c : Char} (h : c = '-' ∨ c.isDigit = true) :
    isBlank c = false := by
  have other := fun {d : Char} => ne_of_beginsNumber (d := d) h
  simp only [isBlank, Bool.or_eq_false_iff, decide_eq_false_iff_not]
  exact ⟨⟨⟨other (by decide), other (by decide)⟩, other (by decide)⟩, other (by decide)⟩

theorem Spells.opens : ∀ {t : List Char} {v : Json}, Spells t v → Opens t
  | _, _, .null => .head (by decide) (by decide) _
  | _, _, .bool true => .head (by decide) (by decide) _
  | _, _, .bool false => .head (by decide) (by decide) _
  | _, _, .number h => by
    obtain ⟨c, u, rfl, first⟩ := h.exists_cons
    exact .head (not_isBlank_of_beginsNumber first)
      ⟨ne_of_beginsNumber first (by decide), ne_of_beginsNumber first (by decide)⟩ u
  | _, _, .string h => by
    obtain ⟨u, rfl, chars⟩ := h
    exact .head (by decide) (by decide) _
  | _, _, .emptyArray _ => .head (by decide) (by decide) _
  | _, _, .array _ => .head (by decide) (by decide) _
  | _, _, .emptyObject _ => .head (by decide) (by decide) _
  | _, _, .object _ => .head (by decide) (by decide) _
  | _, _, .padded before h _ => .padded before (h.opens.append _)

theorem SpellsItems.opens (h : SpellsItems t vs) : Opens t := by
  cases h with
  | one h => exact h.opens
  | cons first others => exact first.opens.append _

/-- A name begins with its quote, and is read with the blanks around it. -/
theorem SpellsName.read {k : List Char} {name : String} (h : SpellsName k name) (rest : List Char) :
    ∃ w b, IsBlanks b ∧ skipBlanks (k ++ rest) = '"' :: w ∧
      Reader.string? w = some (name, b ++ rest) := by
  obtain ⟨before, ⟨u, rfl, chars⟩, behind⟩ := h
  refine ⟨_, _, behind, ?_, Reader.string?_eq_some_iff.2 ⟨u, rfl, chars⟩⟩
  rw [List.append_assoc, skipBlanks_append before, List.cons_append, List.cons_append,
    skipBlanks_cons (by decide)]
  simp

theorem SpellsMembers.opens (h : SpellsMembers t ms) : Opens t := by
  have named : ∀ {k name}, SpellsName k name → ∀ rest, Opens (k ++ rest) := by
    intro k name key rest
    obtain ⟨w, b, -, front, -⟩ := key.read rest
    exact ⟨'"', _, front, by decide⟩
  cases h with
  | one key h => exact named key _
  | cons key first others => exact named key _

/-! ## Reading what is spelled -/

namespace Reader

/-- Blanks in front of a value are passed over. -/
theorem value?_blanks (blank : IsBlanks b) (cs : List Char) :
    value? fuel (b ++ cs) = value? fuel cs := by
  cases fuel with
  | zero => rfl
  | succ fuel => rw [value?, value?, skipBlanks_append blank]

theorem value?_skipBlanks (cs : List Char) : value? fuel (skipBlanks cs) = value? fuel cs := by
  cases fuel with
  | zero => rfl
  | succ fuel => rw [value?, value?, skipBlanks_skipBlanks]

theorem items?_skipBlanks (cs : List Char) : items? fuel (skipBlanks cs) = items? fuel cs := by
  cases fuel with
  | zero => rfl
  | succ fuel => rw [items?, items?, value?_skipBlanks]

theorem members?_skipBlanks (cs : List Char) :
    members? fuel (skipBlanks cs) = members? fuel cs := by
  cases fuel with
  | zero => rfl
  | succ fuel => rw [members?, members?, skipBlanks_skipBlanks]

theorem value?_array (h : Opens cs) :
    value? (fuel + 1) ('[' :: cs) = (items? fuel cs).map fun (vs, t) => (.array vs, t) := by
  obtain ⟨c, u, front, other, -⟩ := h
  rw [value?, skipBlanks_cons (by decide)]
  simp only
  rw [front]
  split
  · rename_i same
    exact absurd (List.cons.inj same).1 other
  · rw [← front, items?_skipBlanks]

theorem value?_object (h : Opens cs) :
    value? (fuel + 1) ('\x7b' :: cs) = (members? fuel cs).map fun (ms, t) => (.object ms, t) := by
  obtain ⟨c, u, front, -, other⟩ := h
  rw [value?, skipBlanks_cons (by decide)]
  simp only
  rw [front]
  split
  · rename_i same
    exact absurd (List.cons.inj same).1 other
  · rw [← front, members?_skipBlanks]

/-- What follows a name and its colon. -/
theorem members?_name {k : List Char} {name : String} (key : SpellsName k name)
    (rest : List Char) : members? (fuel + 1) (k ++ ':' :: rest) =
      (value? fuel rest).bind fun p => match skipBlanks p.2 with
        | ',' :: t => (members? fuel t).bind fun q => some ((name, p.1) :: q.1, q.2)
        | '\x7d' :: t => some ([(name, p.1)], t)
        | _ => none := by
  obtain ⟨w, b, blank, front, read⟩ := key.read (':' :: rest)
  have colon : skipBlanks (b ++ ':' :: rest) = ':' :: rest := skipBlanks_append_cons blank rfl rest
  rw [members?, front]
  simp only [read, Option.bind_eq_bind, Option.bind_some]
  split
  · rename_i left same
    obtain ⟨-, rfl⟩ := List.cons.inj (colon.symm.trans same)
    rfl
  · rename_i other
    exact absurd colon (other rest)

theorem map_word?_append (w : String) (v : Json) (rest : List Char) :
    (word? w (w.toList ++ rest)).map (v, ·) = some (v, rest) := by
  have front : w.toList.isPrefixOf (w.toList ++ rest) = true :=
    List.isPrefixOf_iff_prefix.2 (List.prefix_append _ _)
  rw [word?, if_pos front, ← String.length_toList, List.drop_left]
  rfl

/-- A word stands for its value. -/
theorem of_map_word? {w : String} {value : Json}
    (h : (word? w cs).map (value, ·) = some (v, rest)) : value = v ∧ cs = w.toList ++ rest := by
  obtain ⟨left, read, same⟩ := Option.map_eq_some_iff.1 h
  obtain ⟨rfl, rfl⟩ := Prod.mk.inj same
  rw [word?, ← String.length_toList] at read
  split at read
  · rename_i front
    obtain ⟨u, rfl⟩ := List.isPrefixOf_iff_prefix.1 front
    rw [List.drop_left] at read
    exact ⟨rfl, congrArg (_ ++ ·) (Option.some.inj read)⟩
  · cases read

theorem value?_number {x : Number} (h : SpellsNumber t x) (follows : Follows rest) :
    value? (fuel + 1) (t ++ rest) = some (.number (String.ofList t), rest) := by
  have read := number?_append h follows
  obtain ⟨c, u, rfl, first⟩ := h.exists_cons
  have other := fun {d : Char} => ne_of_beginsNumber (d := d) first
  rw [List.cons_append] at read ⊢
  rw [value?, skipBlanks_cons (not_isBlank_of_beginsNumber first)]
  split
  case h_7 =>
    rw [read, ← List.cons_append]
    simp only [Option.map_some, List.length_append, Nat.add_sub_cancel, List.take_left]
  all_goals
    rename_i same
    exact absurd (List.cons.inj same).1 (other (by decide))

end Reader

open Reader

/-- What has a length is read in a step at least. -/
theorem exists_fuel (h : 0 < t.length) (enough : t.length ≤ fuel) : ∃ n, fuel = n + 1 :=
  Nat.exists_eq_succ_of_ne_zero (by omega)

mutual

/-- **A value is read to its end**, and perhaps the blanks behind it. -/
theorem Spells.value?_append : ∀ {t : List Char} {v : Json}, Spells t v →
    ∀ (fuel : Nat) {rest : List Char}, t.length ≤ fuel + 1 → Follows rest →
      ∃ b, IsBlanks b ∧ value? (fuel + 1) (t ++ rest) = some (v, b ++ rest)
  | _, _, .null, _, rest, _, _ => ⟨[], .nil, map_word?_append "ull" .null rest⟩
  | _, _, .bool true, _, rest, _, _ => ⟨[], .nil, map_word?_append "rue" (.bool true) rest⟩
  | _, _, .bool false, _, rest, _, _ => ⟨[], .nil, map_word?_append "alse" (.bool false) rest⟩
  | _, _, .number h, fuel, rest, _, follows => ⟨[], .nil, value?_number h follows⟩
  | _, _, .string h, fuel, rest, _, _ => by
    obtain ⟨u, rfl, chars⟩ := h
    refine ⟨[], .nil, ?_⟩
    have read := string?_eq_some_iff.2 ⟨u, (rfl : u ++ '"' :: rest = _), chars⟩
    rw [List.cons_append, List.append_assoc, value?, skipBlanks_cons (by decide)]
    simp only [List.cons_append, List.nil_append, read, Option.map_some]
  | _, _, .emptyArray blank, fuel, rest, _, _ => by
    refine ⟨[], .nil, ?_⟩
    have closes : skipBlanks (_ ++ ']' :: rest) = ']' :: rest :=
      skipBlanks_append_cons blank rfl rest
    rw [List.cons_append, List.append_assoc, value?, skipBlanks_cons (by decide)]
    simp only [List.cons_append, List.nil_append, closes]
  | _, _, .array h, fuel, rest, enough, _ => by
    refine ⟨[], .nil, ?_⟩
    simp only [List.length_cons, List.length_append, List.length_nil] at enough
    obtain ⟨fuel, rfl⟩ := exists_fuel h.opens.length_pos (Nat.le_of_add_right_le
      (Nat.le_of_succ_le_succ enough))
    have read := h.items?_append fuel (by omega) rest
    rw [List.cons_append, List.append_assoc, value?_array (h.opens.append _)]
    simp only [List.cons_append, List.nil_append, read, Option.map_some]
  | _, _, .emptyObject blank, fuel, rest, _, _ => by
    refine ⟨[], .nil, ?_⟩
    have closes : skipBlanks (_ ++ '\x7d' :: rest) = '\x7d' :: rest :=
      skipBlanks_append_cons blank rfl rest
    rw [List.cons_append, List.append_assoc, value?, skipBlanks_cons (by decide)]
    simp only [List.cons_append, List.nil_append, closes]
  | _, _, .object h, fuel, rest, enough, _ => by
    refine ⟨[], .nil, ?_⟩
    simp only [List.length_cons, List.length_append, List.length_nil] at enough
    obtain ⟨fuel, rfl⟩ := exists_fuel h.opens.length_pos (Nat.le_of_add_right_le
      (Nat.le_of_succ_le_succ enough))
    have read := h.members?_append fuel (by omega) rest
    rw [List.cons_append, List.append_assoc, value?_object (h.opens.append _)]
    simp only [List.cons_append, List.nil_append, read, Option.map_some]
  | _, _, .padded before h behind, fuel, rest, enough, follows => by
    simp only [List.length_append] at enough
    obtain ⟨b, blank, read⟩ := h.value?_append fuel (by omega) (follows.of_blanks behind)
    refine ⟨_, blank.append behind, ?_⟩
    rw [List.append_assoc, List.append_assoc, value?_blanks before, read, List.append_assoc]

/-- Items are read up to the closing bracket. -/
theorem SpellsItems.items?_append : ∀ {t : List Char} {vs : List Json}, SpellsItems t vs →
    ∀ (fuel : Nat), t.length ≤ fuel → ∀ rest : List Char,
      items? (fuel + 1) (t ++ ']' :: rest) = some (vs, rest)
  | _, _, .one h, fuel, enough, rest => by
    obtain ⟨fuel, rfl⟩ := exists_fuel h.opens.length_pos enough
    obtain ⟨b, blank, read⟩ := h.value?_append fuel enough (.cons (.inr (.inl rfl)) rest)
    have closes : skipBlanks (_ ++ ']' :: rest) = ']' :: rest :=
      skipBlanks_append_cons blank rfl rest
    rw [items?, read]
    simp only [Option.bind_eq_bind, Option.bind_some, closes]
  | _, _, .cons (u := u) first others, fuel, enough, rest => by
    simp only [List.length_append, List.length_cons] at enough
    obtain ⟨fuel, rfl⟩ := exists_fuel first.opens.length_pos (Nat.le_of_add_right_le enough)
    obtain ⟨b, blank, read⟩ :=
      first.value?_append fuel (by omega) (.cons (.inl rfl) (u ++ ']' :: rest))
    have goesOn : skipBlanks (b ++ ',' :: (u ++ ']' :: rest)) = ',' :: (u ++ ']' :: rest) :=
      skipBlanks_append_cons blank rfl _
    have next := others.items?_append fuel (by omega) rest
    rw [List.append_assoc, List.cons_append, items?, read]
    simp only [Option.bind_eq_bind, Option.bind_some, goesOn, next]

/-- Members are read up to the closing brace. -/
theorem SpellsMembers.members?_append : ∀ {t : List Char} {ms : List (String × Json)},
    SpellsMembers t ms → ∀ (fuel : Nat), t.length ≤ fuel → ∀ rest : List Char,
      members? (fuel + 1) (t ++ '\x7d' :: rest) = some (ms, rest)
  | _, _, .one (t := t) key h, fuel, enough, rest => by
    simp only [List.length_append, List.length_cons] at enough
    obtain ⟨fuel, rfl⟩ := exists_fuel h.opens.length_pos (Nat.le_trans (by omega) enough)
    obtain ⟨b, blank, read⟩ := h.value?_append fuel (by omega) (.cons (.inr (.inr rfl)) rest)
    have closes : skipBlanks (_ ++ '\x7d' :: rest) = '\x7d' :: rest :=
      skipBlanks_append_cons blank rfl rest
    rw [List.append_assoc, List.cons_append, members?_name key, read]
    simp only [Option.bind_some, closes]
  | _, _, .cons (t := t) (u := u) key first others, fuel, enough, rest => by
    simp only [List.length_append, List.length_cons] at enough
    obtain ⟨fuel, rfl⟩ := exists_fuel first.opens.length_pos (Nat.le_trans (by omega) enough)
    obtain ⟨b, blank, read⟩ :=
      first.value?_append fuel (by omega) (.cons (.inl rfl) (u ++ '\x7d' :: rest))
    have goesOn : skipBlanks (b ++ ',' :: (u ++ '\x7d' :: rest)) = ',' :: (u ++ '\x7d' :: rest) :=
      skipBlanks_append_cons blank rfl _
    have next := others.members?_append fuel (by omega) rest
    rw [List.append_assoc, List.cons_append, List.append_assoc, List.cons_append, members?_name key,
      read]
    simp only [Option.bind_some, goesOn, next]

end

/-! ## What is read is spelled -/

mutual

theorem spells_of_value? : ∀ {fuel : Nat} {cs rest : List Char} {v : Json},
    value? fuel cs = some (v, rest) → ∃ t, cs = t ++ rest ∧ Spells t v
  | 0, _, _, _, h => by cases h
  | fuel + 1, cs, rest, v, h => by
    obtain ⟨b, blank, same⟩ := exists_blanks cs
    -- It is enough to look behind the blanks.
    suffices core : ∃ t, skipBlanks cs = t ++ rest ∧ Spells t v by
      obtain ⟨t, front, spelled⟩ := core
      exact ⟨b ++ (t ++ []), by rw [same, front]; simp, .padded blank spelled .nil⟩
    rw [value?] at h
    split at h <;> rename_i front
    case h_7 =>
      obtain ⟨⟨x, left⟩, read, h⟩ := Option.map_eq_some_iff.1 h
      cases h
      obtain ⟨t, front, number⟩ := spellsNumber_of_number? read
      refine ⟨t, front, ?_⟩
      rw [front, List.length_append, Nat.add_sub_cancel, List.take_left]
      exact .number number
    all_goals rw [front]
    · obtain ⟨rfl, rfl⟩ := of_map_word? h
      exact ⟨"null".toList, rfl, .null⟩
    · obtain ⟨rfl, rfl⟩ := of_map_word? h
      exact ⟨"true".toList, rfl, .bool true⟩
    · obtain ⟨rfl, rfl⟩ := of_map_word? h
      exact ⟨"false".toList, rfl, .bool false⟩
    · obtain ⟨⟨s, left⟩, read, h⟩ := Option.map_eq_some_iff.1 h
      cases h
      obtain ⟨u, rfl, chars⟩ := string?_eq_some_iff.1 read
      exact ⟨'"' :: (u ++ ['"']), by simp, .string ⟨u, rfl, chars⟩⟩
    · rename_i inside
      obtain ⟨b', blank', same'⟩ := exists_blanks inside
      split at h
      · rename_i closes
        cases h
        exact ⟨'[' :: (b' ++ [']']), by rw [same', closes]; simp, .emptyArray blank'⟩
      · rw [items?_skipBlanks] at h
        obtain ⟨⟨vs, left⟩, read, h⟩ := Option.map_eq_some_iff.1 h
        cases h
        obtain ⟨t, rfl, items⟩ := spellsItems_of_items? read
        exact ⟨'[' :: (t ++ [']']), by simp, .array items⟩
    · rename_i inside
      obtain ⟨b', blank', same'⟩ := exists_blanks inside
      split at h
      · rename_i closes
        cases h
        exact ⟨'\x7b' :: (b' ++ ['\x7d']), by rw [same', closes]; simp, .emptyObject blank'⟩
      · rw [members?_skipBlanks] at h
        obtain ⟨⟨ms, left⟩, read, h⟩ := Option.map_eq_some_iff.1 h
        cases h
        obtain ⟨t, rfl, members⟩ := spellsMembers_of_members? read
        exact ⟨'\x7b' :: (t ++ ['\x7d']), by simp, .object members⟩

theorem spellsItems_of_items? : ∀ {fuel : Nat} {cs rest : List Char} {vs : List Json},
    items? fuel cs = some (vs, rest) → ∃ t, cs = t ++ ']' :: rest ∧ SpellsItems t vs
  | 0, _, _, _, h => by cases h
  | fuel + 1, cs, rest, vs, h => by
    simp only [items?, Option.bind_eq_bind, Option.bind_eq_some_iff, Prod.exists] at h
    obtain ⟨v, left, read, h⟩ := h
    obtain ⟨t, rfl, first⟩ := spells_of_value? read
    obtain ⟨b, blank, same⟩ := exists_blanks left
    have first : Spells (t ++ b) v := .padded .nil first blank
    split at h <;> rename_i front
    · simp only [Option.bind_eq_some_iff, Prod.exists] at h
      obtain ⟨us, left', next, h⟩ := h
      cases h
      obtain ⟨u, rfl, others⟩ := spellsItems_of_items? next
      exact ⟨(t ++ b) ++ ',' :: u, by rw [same, front]; simp, .cons first others⟩
    · cases h
      exact ⟨t ++ b, by rw [same, front]; simp, .one first⟩
    · cases h

theorem spellsMembers_of_members? : ∀ {fuel : Nat} {cs rest : List Char}
    {ms : List (String × Json)}, members? fuel cs = some (ms, rest) →
      ∃ t, cs = t ++ '\x7d' :: rest ∧ SpellsMembers t ms
  | 0, _, _, _, h => by cases h
  | fuel + 1, cs, rest, ms, h => by
    obtain ⟨b, blank, same⟩ := exists_blanks cs
    rw [members?] at h
    split at h <;> rename_i front
    · simp only [Option.bind_eq_bind, Option.bind_eq_some_iff, Prod.exists] at h
      obtain ⟨name, left, named, h⟩ := h
      obtain ⟨w, rfl, chars⟩ := string?_eq_some_iff.1 named
      obtain ⟨b', blank', same'⟩ := exists_blanks left
      have key : SpellsName (b ++ ('"' :: (w ++ ['"']) ++ b')) name :=
        .padded blank ⟨w, rfl, chars⟩ blank'
      split at h <;> rename_i colon
      · simp only [Option.bind_eq_some_iff, Prod.exists] at h
        obtain ⟨v, left', read, h⟩ := h
        obtain ⟨t, rfl, first⟩ := spells_of_value? read
        obtain ⟨b'', blank'', same''⟩ := exists_blanks left'
        have first : Spells (t ++ b'') v := .padded .nil first blank''
        split at h <;> rename_i behind
        · simp only [Option.bind_eq_some_iff, Prod.exists] at h
          obtain ⟨us, left'', next, h⟩ := h
          cases h
          obtain ⟨u, rfl, others⟩ := spellsMembers_of_members? next
          exact ⟨_, by rw [same, front, same', colon, same'', behind]; simp,
            .cons key first others⟩
        · cases h
          exact ⟨_, by rw [same, front, same', colon, same'', behind]; simp, .one key first⟩
        · cases h
      · cases h
    · cases h

end

/-! ## Documents -/

/-- **A document is read** as the value that its text spells, and no other text is read. -/
theorem ofText?_eq_some_iff {text : List Char} : ofText? text = some v ↔ Spells text v := by
  rw [ofText?]
  constructor
  · intro h
    split at h
    · rename_i w left read
      split at h
      · rename_i blank
        cases h
        obtain ⟨t, rfl, spelled⟩ := spells_of_value? read
        rw [List.isEmpty_iff, ← isBlanks_iff_skipBlanks] at blank
        exact .padded .nil spelled blank
      · cases h
    · cases h
  · intro h
    obtain ⟨b, blank, read⟩ := h.value?_append text.length (Nat.le_succ _) Follows.nil
    rw [List.append_nil, List.append_nil] at read
    simp only [read, isBlanks_iff_skipBlanks.1 blank, List.isEmpty_nil, if_true]

/-- A text spells one value at most. -/
theorem Spells.unique {w : Json} (h : Spells t v) (h' : Spells t w) : v = w :=
  Option.some.inj ((ofText?_eq_some_iff.2 h).symm.trans (ofText?_eq_some_iff.2 h'))

end Gatekeeper.Json
