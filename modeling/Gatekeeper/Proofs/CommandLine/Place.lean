import Gatekeeper.Proofs.CommandLine.Word
import Mathlib.Data.List.Nodup

/-!
# The places of a command line

`Spells` tells what the arguments of one place give. The parameter that the argument before them
lacks a value for is an index of it, so an argument that is a value stands behind its parameter
alone. `Closes` tells where a place ends, and `Valid` what may be given in one place together.

The reader gets from a place what its arguments spell (`Place.read_spelled`) and reads nothing that
is not spelled (`Place.exists_spelled_of_read`), so a place is read to its end if and only if its
arguments spell valid parameters (`Place.exists_read_iff`).
-/

namespace Gatekeeper.CommandLine

variable {place : Option Command} {s s' s₀ s₁ f : Place} {p : Parameter} {q : Option Parameter}
  {gs hs : List (Parameter × String)}

/-! ## The arguments of a place -/

/-- The argument can be a value behind its parameter: it does not begin with a dash, unless it is
no longer than that. -/
def IsValue (a : String) : Prop := ∀ c t, a.toList ≠ '-' :: c :: t

/-- The arguments that give some parameters in a place, behind one that lacks a value. -/
inductive Spells (place : Option Command) :
    Option Parameter → List String → List (Parameter × String) → Prop
  | nil : Spells place none [] []
  | word {a : String} {gs : List (Parameter × String)} {q : Option Parameter}
      (word : Word place a.toList gs q) {as : List String} {hs : List (Parameter × String)}
      (rest : Spells place q as hs) : Spells place none (a :: as) (gs ++ hs)
  | value {v : String} (value : IsValue v) (p : Parameter) {as : List String}
      {hs : List (Parameter × String)} (rest : Spells place none as hs) :
      Spells place (some p) (v :: as) ((p, v) :: hs)

/-- **What the arguments of a place give** belongs there. -/
theorem Spells.belong {as : List String} (h : Spells place q as gs)
    (hq : ∀ p, q = some p → p.isFor place = true) : ∀ g ∈ gs, g.1.isFor place = true := by
  induction h with
  | nil => exact fun g hg => absurd hg List.not_mem_nil
  | word word _ ih =>
    have begun := word.belong
    have rest := ih begun.lacking
    intro g hg
    rcases List.mem_append.1 hg with hg | hg
    · exact begun.given g hg
    · exact rest g hg
  | value _ p _ ih =>
    have rest := ih (fun p hp => by cases hp)
    intro g hg
    rcases List.mem_cons.1 hg with rfl | hg
    · exact hq p rfl
    · exact rest g hg

/-- How the arguments of a place end: with the line, where two dashes may stand, or before the
command with the word that turns to something. -/
inductive Closes (place : Option Command) : List String → Option (Turn × List String) → Prop
  | line : Closes place [] none
  | dashes : Closes place ["--"] none
  | turn (before : place = none) {a : String} {t : Turn} (word : Turn.ofWord? a = some t)
      (as : List String) : Closes place (a :: as) (some (t, as))

theorem Closes.eq_none {c : Command} {as : List String} {turn : Option (Turn × List String)}
    (h : Closes (some c) as turn) : turn = none := by
  cases h with
  | line => rfl
  | dashes => rfl
  | turn before => cases before

namespace Place

/-- The parameter that still lacks its value. -/
def lacking? (s : Place) : Option Parameter :=
  match s.pending with
  | some (p, none) => some p
  | _ => none

/-- The place with everything given that has its value. -/
def collected (s : Place) : Except Halt Place :=
  match s.pending with
  | some (p, some value) => give { s with pending := none } p value
  | _ => .ok { s with pending := none }

theorem isAwaiting_eq (s : Place) : s.isAwaiting = s.lacking?.isSome := by
  rcases s with ⟨c, given, - | ⟨p, - | v⟩⟩ <;> rfl

theorem settle_eq_ok_iff : s.settle = .ok f ↔ s.lacking? = none ∧ s.collected = .ok f := by
  rcases s with ⟨c, given, - | ⟨p, - | v⟩⟩ <;> simp [settle, lacking?, collected]

theorem collected_value {v : String} (h : s.lacking? = some p) :
    ({ s with pending := some (p, some v) } : Place).collected =
      s.collected >>= fun s => s.give p v := by
  rcases s with ⟨c, given, - | ⟨p, - | v⟩⟩
  · cases h
  · cases h
    rfl
  · cases h

/-- What a place stands at when parameters were taken and one was begun. -/
theorem begin?_of_settle (settled : s.settle = .ok s₀) (given : s₀.giveAll gs = .ok s₁)
    (q : Option Parameter) :
    (s₁.begin? q).command = s.command ∧ (s₁.begin? q).lacking? = q ∧
      (s₁.begin? q).collected = .ok s₁ := by
  obtain ⟨pending, command⟩ := pending_of_settle settled
  rw [eq_of_giveAll given]
  refine ⟨command, ?_, ?_⟩
  · cases q <;> rfl
  · cases q <;> simp only [begin?, collected, Option.map, pending]

/-! ## One argument -/

/-- No turn begins with a dash. -/
theorem ofWord?_of_dash {a : String} {t : List Char} (h : a.toList = '-' :: t) :
    Turn.ofWord? a = none := by
  have other : ∀ b : String, b.toList.head? ≠ some '-' → a ≠ b := by
    rintro b hb rfl
    simp [h] at hb
  have help := other "help" (by decide)
  have commands : ∀ c : Command, a ≠ c.word := fun c => other _ (by cases c <;> decide)
  simp [Turn.ofWord?, Command.ofWord?, help, (commands _).symm]

variable {a : String} {as : List String} {t : List Char}

theorem read_long (ha : a.toList = '-' :: '-' :: t) (ht : t ≠ []) :
    s.read (a :: as) = s.readLong t >>= fun s => s.read as := by
  obtain ⟨c, t, rfl⟩ := List.exists_cons_of_ne_nil ht
  rw [read.eq_def]
  simp only [ofWord?_of_dash ha, ite_self, ha]

theorem read_short {c : Char} (ha : a.toList = '-' :: c :: t) (hc : c ≠ '-') :
    s.read (a :: as) = s.readShort (c :: t) >>= fun s => s.read as := by
  rw [read.eq_def]
  simp only [ofWord?_of_dash ha, ite_self, ha]
  split
  · rename_i h
    exact absurd (List.cons.inj (List.cons.inj h).2).1 hc
  · rename_i h
    exact absurd (List.cons.inj (List.cons.inj h).2).1 hc
  · rename_i h
    cases h
    rfl
  · rename_i h
    exact absurd rfl (h _ _)

theorem read_dashes (s : Place) : s.read ["--"] = .ok (s, none) := by
  rw [read.eq_def]
  simp only [ofWord?_of_dash (a := "--") rfl, ite_self]
  rfl

theorem read_dashes_cons (s : Place) (b : String) (bs : List String) :
    s.read ("--" :: b :: bs) = .error (.fault (s.stray true b)) := by
  rw [read.eq_def]
  simp only [ofWord?_of_dash (a := "--") rfl, ite_self]
  rfl

theorem read_turn {turn : Turn} (hc : s.command = none) (hp : s.lacking? = none)
    (ha : Turn.ofWord? a = some turn) : s.read (a :: as) = .ok (s, some (turn, as)) := by
  rw [read.eq_def]
  simp [isAwaiting_eq, hc, hp, ha]

theorem read_of_isValue (ha : IsValue a)
    (ht : (if s.command.isNone && !s.isAwaiting then Turn.ofWord? a else none) = none) :
    s.read (a :: as) = match s.pending with
      | some (p, none) => ({ s with pending := some (p, some a) } : Place).read as
      | _ => .error (.fault (s.stray false a)) := by
  rw [read.eq_def]
  simp only [ht]
  split
  · exact absurd ‹_› (ha _ _)
  · exact absurd ‹_› (ha _ _)
  · exact absurd ‹_› (ha _ _)
  · rfl

theorem read_value (hp : s.lacking? = some p) (ha : IsValue a) :
    s.read (a :: as) = ({ s with pending := some (p, some a) } : Place).read as := by
  rw [read_of_isValue ha (by simp [isAwaiting_eq, hp])]
  rcases s with ⟨c, given, - | ⟨p, - | v⟩⟩ <;> cases hp
  rfl

theorem read_stray (hp : s.lacking? = none) (ha : IsValue a)
    (ht : (if s.command.isNone then Turn.ofWord? a else none) = none) :
    s.read (a :: as) = .error (.fault (s.stray false a)) := by
  rw [read_of_isValue ha (by simpa [isAwaiting_eq, hp] using ht)]
  rcases s with ⟨c, given, - | ⟨p, - | v⟩⟩
  · rfl
  · cases hp
  · rfl

theorem read_word (h : Word s.command a.toList gs q) :
    s.read (a :: as) = s.take gs q >>= fun s => s.read as := by
  rcases ha : a.toList with - | ⟨c, t⟩
  · rw [ha] at h
    cases h
  · rw [ha] at h
    cases h with
    | long h => rw [read_long ha h.ne_nil, readLong_eq h]
    | short h =>
      obtain ⟨c, t, rfl, hc⟩ := h.exists_cons
      rw [read_short ha hc, readShort_eq rfl h]

/-! ## All arguments -/

/-- **Reading what is spelled.** The reader goes on behind it, with everything given. -/
theorem read_spelled (h : Spells place q as hs) (hc : s.command = place) (hq : s.lacking? = q)
    (collected : s.collected = .ok s₀) (given : s₀.giveAll hs = .ok f) :
    ∃ s' : Place, s'.command = place ∧ s'.settle = .ok f ∧
      ∀ rest, s.read (as ++ rest) = s'.read rest := by
  -- A value is given only when the next parameter begins, so the place itself says little on the
  -- way; what it has collected is given with the rest.
  induction h generalizing s s₀ with
  | nil =>
    cases given
    exact ⟨s, hc, settle_eq_ok_iff.2 ⟨hq, collected⟩, fun rest => rfl⟩
  | word word rest ih =>
    rename_i a gs q as hs
    rw [giveAll_append] at given
    obtain ⟨s₁, first, others⟩ := bind_ok_iff.1 given
    have settled := settle_eq_ok_iff.2 ⟨hq, collected⟩
    have taken : s.take gs q = .ok (s₁.begin? q) := take_eq_ok_iff.2 ⟨s₀, s₁, settled, first, rfl⟩
    obtain ⟨command, lacking, collected'⟩ := begin?_of_settle settled first q
    obtain ⟨s', command', settled', read⟩ := ih (command.trans hc) lacking collected' others
    refine ⟨s', command', settled', fun rest => ?_⟩
    rw [List.cons_append, read_word (hc ▸ word), taken, ← read]
    rfl
  | value value p rest ih =>
    rename_i v as hs
    obtain ⟨s₁, first, others⟩ := bind_ok_iff.1 given
    have collected' : ({ s with pending := some (p, some v) } : Place).collected = .ok s₁ := by
      rw [collected_value hq, collected]
      exact first
    obtain ⟨s', command, settled', read⟩ := ih (by exact hc) rfl collected' others
    refine ⟨s', command, settled', fun rest => ?_⟩
    rw [List.cons_append, read_value hq value, ← read]

theorem read_closes {turn : Option (Turn × List String)} (h : Closes s.command as turn)
    (hl : s.lacking? = none) : s.read as = .ok (s, turn) := by
  cases h with
  | line => rfl
  | dashes => exact read_dashes s
  | turn before word as => exact read_turn before hl word

/-- An argument is a word that begins with a dash, two dashes alone, or a value. -/
theorem argument_cases (a : String) :
    ((∃ t, a.toList = '-' :: '-' :: t ∧ t ≠ []) ∨ ∃ c t, a.toList = '-' :: c :: t ∧ c ≠ '-') ∨
      a = "--" ∨ IsValue a := by
  by_cases ha : IsValue a
  · exact .inr (.inr ha)
  · simp only [IsValue, not_forall, not_not] at ha
    obtain ⟨c, t, ha⟩ := ha
    by_cases hc : c = '-'
    · subst hc
      rcases t with - | ⟨c, t⟩
      · exact .inr (.inl (String.toList_inj.1 ha))
      · exact .inl (.inl ⟨c :: t, ha, List.cons_ne_nil _ _⟩)
    · exact .inl (.inr ⟨c, t, ha, hc⟩)

/-- An argument that begins with a dash is a word, if the reader gets past it. -/
theorem exists_word_of_read {r : Place × Option (Turn × List String)}
    (ha : (∃ t, a.toList = '-' :: '-' :: t ∧ t ≠ []) ∨ ∃ c t, a.toList = '-' :: c :: t ∧ c ≠ '-')
    (h : s.read (a :: as) = .ok r) :
    ∃ gs q s₁, Word s.command a.toList gs q ∧ s.take gs q = .ok s₁ ∧ s₁.read as = .ok r := by
  rcases ha with ⟨t, ha, ht⟩ | ⟨c, t, ha, hc⟩
  · rw [read_long ha ht] at h
    obtain ⟨s₁, word, rest⟩ := bind_ok_iff.1 h
    obtain ⟨gs, q, long⟩ := exists_long_of_readLong word
    exact ⟨gs, q, s₁, ha ▸ .long long, (readLong_eq long).symm.trans word, rest⟩
  · rw [read_short ha hc] at h
    obtain ⟨s₁, word, rest⟩ := bind_ok_iff.1 h
    obtain ⟨gs, q, letters⟩ := exists_letters_of_readShort word
    exact ⟨gs, q, s₁, ha ▸ .short letters, (readShort_eq rfl letters).symm.trans word, rest⟩

/-- **What is read is spelled.** -/
theorem exists_spelled_of_read {args : List String} {turn : Option (Turn × List String)}
    (h : s.read args = .ok (s', turn)) (hf : s'.settle = .ok f) :
    ∃ as rest gs s₀, args = as ++ rest ∧ Spells s.command s.lacking? as gs ∧
      Closes s.command rest turn ∧ s.collected = .ok s₀ ∧ s₀.giveAll gs = .ok f := by
  -- The place may lack a value at the head of its arguments, as it does after a word.
  induction args generalizing s with
  | nil =>
    cases h
    obtain ⟨lacking, collected⟩ := settle_eq_ok_iff.1 hf
    exact ⟨[], [], [], f, rfl, lacking ▸ .nil, .line, collected, rfl⟩
  | cons a args ih =>
    rcases argument_cases a with dashed | rfl | value
    · obtain ⟨gs, q, s₁, word, taken, read⟩ := exists_word_of_read dashed h
      obtain ⟨s₀, s₂, settled, first, rfl⟩ := take_eq_ok_iff.1 taken
      obtain ⟨lacking, collected⟩ := settle_eq_ok_iff.1 settled
      obtain ⟨command, lacking', collected'⟩ := begin?_of_settle settled first q
      obtain ⟨as, rest, hs, _, rfl, spelled, ends, same, given⟩ := ih read
      obtain rfl := Except.ok.inj (collected'.symm.trans same)
      rw [command, lacking'] at spelled
      rw [command] at ends
      refine ⟨a :: as, rest, gs ++ hs, s₀, rfl, lacking ▸ .word word spelled, ends, collected, ?_⟩
      rw [giveAll_append, first]
      exact given
    · rcases args with - | ⟨b, bs⟩
      · obtain ⟨rfl, rfl⟩ := Prod.mk.inj (Except.ok.inj ((read_dashes s).symm.trans h))
        obtain ⟨lacking, collected⟩ := settle_eq_ok_iff.1 hf
        exact ⟨[], ["--"], [], f, rfl, lacking ▸ .nil, .dashes, collected, rfl⟩
      · rw [read_dashes_cons] at h
        cases h
    · rcases hl : s.lacking? with - | p
      · rcases ht : (if s.command.isNone then Turn.ofWord? a else none) with - | t
        · rw [read_stray hl value ht] at h
          cases h
        · have before : s.command = none := by
            by_contra hc
            simp [hc] at ht
          rw [before, Option.isNone_none, if_pos rfl] at ht
          rw [read_turn before hl ht] at h
          obtain ⟨rfl, rfl⟩ := Prod.mk.inj (Except.ok.inj h)
          obtain ⟨lacking, collected⟩ := settle_eq_ok_iff.1 hf
          exact ⟨[], a :: args, [], f, rfl, .nil, .turn before ht args, collected, rfl⟩
      · rw [read_value hl value] at h
        obtain ⟨as, rest, gs, s₁, rfl, spelled, ends, collected, given⟩ := ih h
        rw [collected_value hl] at collected
        obtain ⟨s₀, collected, first⟩ := bind_ok_iff.1 collected
        refine ⟨a :: as, rest, (p, a) :: gs, s₀, rfl, .value value p spelled, ends, collected, ?_⟩
        exact bind_ok_iff.2 ⟨s₁, first, given⟩

end Place

/-! ## What may be given together -/

/-- The parameters may be given in one place together, and ask for something to be run. -/
structure Valid (gs : List (Parameter × String)) : Prop where
  once : (gs.map Prod.fst).Nodup
  taken : ∀ g ∈ gs, g.1.refuses g.2 = false
  runs : ∀ g ∈ gs, g.1 ≠ .help ∧ g.1 ≠ .version

theorem valid_nil : Valid [] := ⟨List.nodup_nil, by simp, by simp⟩

theorem Valid.left (h : Valid (gs ++ hs)) : Valid gs where
  once := (List.nodup_append.1 (List.map_append ▸ h.once)).1
  taken g hg := h.taken g (List.mem_append_left hs hg)
  runs g hg := h.runs g (List.mem_append_left hs hg)

theorem valid_concat_iff {v : String} :
    Valid (gs ++ [(p, v)]) ↔
      Valid gs ∧ p ∉ gs.map Prod.fst ∧ p.refuses v = false ∧ p ≠ .help ∧ p ≠ .version := by
  constructor
  · intro h
    have last : (p, v) ∈ gs ++ [(p, v)] := by simp
    refine ⟨h.left, ?_, h.taken _ last, h.runs _ last⟩
    have once := h.once
    rw [List.map_append, List.nodup_append] at once
    exact fun hp => once.2.2 p hp p (by simp) rfl
  · rintro ⟨h, new, taken, runs⟩
    have last {P : Parameter × String → Prop} (hP : ∀ g ∈ gs, P g) (hp : P (p, v)) :
        ∀ g ∈ gs ++ [(p, v)], P g := by
      simpa [or_imp, forall_and, hp] using hP
    refine ⟨?_, last h.taken taken, last h.runs runs⟩
    rw [List.map_append, List.nodup_append]
    refine ⟨h.once, List.nodup_singleton p, ?_⟩
    rintro b hb c hc rfl
    obtain rfl : b = p := List.mem_singleton.1 hc
    exact new hb

namespace Place

theorem has_eq_false_iff : s.has p = false ↔ p ∉ s.given.map Prod.fst := by
  simp only [has, value?, Option.isSome_map, List.find?_isSome, ← Bool.not_eq_true, List.mem_map]
  simp

theorem give_eq_ok_iff {v : String} (hs : Valid s.given) :
    s.give p v = .ok s' ↔
      Valid (s.given ++ [(p, v)]) ∧ s' = { s with given := s.given ++ [(p, v)] } := by
  rw [valid_concat_iff, ← has_eq_false_iff, and_iff_right hs]
  constructor
  · intro h
    refine ⟨?_, eq_of_give h⟩
    unfold give at h
    split_ifs at h with h₁ h₂ h₃ h₄
    simp_all
  · rintro ⟨⟨h₁, h₂, h₃, h₄⟩, rfl⟩
    simp [give, h₁, h₂, h₃, h₄]

/-- Parameters are given one after the other if and only if they may be given together. -/
theorem giveAll_eq_ok_iff (hs : Valid s.given) :
    s.giveAll gs = .ok f ↔
      Valid (s.given ++ gs) ∧ f = { s with given := s.given ++ gs } := by
  induction gs generalizing s with
  | nil => simp [hs, eq_comm]
  | cons g gs ih =>
    rw [giveAll_cons, bind_ok_iff]
    have assoc : s.given ++ g :: gs = (s.given ++ [g]) ++ gs := by simp
    constructor
    · rintro ⟨s₁, first, rest⟩
      obtain ⟨valid, rfl⟩ := (give_eq_ok_iff hs).1 first
      rw [assoc]
      exact (ih valid).1 rest
    · intro ⟨valid, hf⟩
      rw [assoc] at valid hf
      exact ⟨_, (give_eq_ok_iff hs).2 ⟨valid.left, rfl⟩, (ih valid.left).2 ⟨valid, hf⟩⟩

end Place

/-- A place of which nothing was read yet gives what its arguments spell. -/
theorem Place.exists_read_iff {args : List String} {turn : Option (Turn × List String)} :
    (∃ s : Place, ({ command := place } : Place).read args = .ok (s, turn) ∧ s.settle = .ok f) ↔
      ∃ as rest gs, args = as ++ rest ∧ Spells place none as gs ∧ Closes place rest turn ∧
        Valid gs ∧ f = ⟨place, gs, none⟩ := by
  constructor
  · rintro ⟨s, read, settled⟩
    obtain ⟨as, rest, gs, _, rfl, spelled, ends, collected, given⟩ :=
      exists_spelled_of_read read settled
    obtain rfl := Except.ok.inj collected
    obtain ⟨valid, hf⟩ := (giveAll_eq_ok_iff valid_nil).1 given
    exact ⟨as, rest, gs, rfl, spelled, ends, valid, hf⟩
  · rintro ⟨as, rest, gs, rfl, spelled, ends, valid, rfl⟩
    have given : ({ command := place } : Place).giveAll gs = .ok ⟨place, gs, none⟩ :=
      (giveAll_eq_ok_iff valid_nil).2 ⟨valid, rfl⟩
    obtain ⟨s, command, settled, read⟩ :=
      read_spelled (s := { command := place }) spelled rfl rfl rfl given
    obtain ⟨lacking, -⟩ := settle_eq_ok_iff.1 settled
    exact ⟨s, (read rest).trans (read_closes (command ▸ ends) lacking), settled⟩

end Gatekeeper.CommandLine
