import Gatekeeper.CommandLine.Arguments
import Gatekeeper.Failure
import Mathlib.Tactic.SplitIfs

/-!
# Arguments that begin with a dash

What such an argument gives is told without a reader: `Long` of what stands behind two dashes,
`Letters` of what stands behind one, `Word` of both. A word gives some parameters with their values
and may leave one at its end that still lacks its value.

The reader takes what a word spells (`Place.readLong_eq`, `Place.readShort_eq`), and it understands
nothing else (`Place.exists_long_of_readLong`, `Place.exists_letters_of_readShort`).
-/

namespace Gatekeeper.CommandLine

variable {place : Option Command} {s s' s₀ s₁ : Place} {p : Parameter} {q : Option Parameter}
  {cs : List Char} {gs : List (Parameter × String)}

/-! ## Arguments that begin with a dash -/

namespace Parameter

theorem ofLong?_eq_some_iff :
    ofLong? place cs = some p ↔ p.isFor place = true ∧ p.long.toList = cs := by
  constructor
  · intro h
    simpa using List.find?_some h
  · rintro ⟨h, rfl⟩
    rcases place with - | - | - | - <;> cases p <;> revert h <;> decide

theorem equals_notMem_long (p : Parameter) : '=' ∉ p.long.toList := by cases p <;> decide

theorem long_ne_nil (p : Parameter) : p.long.toList ≠ [] := by cases p <;> decide

/-- No letter is a dash. -/
theorem ofShort?_dash (place : Option Command) : ofShort? place '-' = none := by
  rcases place with - | - | - | - <;> decide

end Parameter

/-- What stands behind two dashes: the parameters that it gives, and the one that still lacks its
value. -/
inductive Long (place : Option Command) :
    List Char → List (Parameter × String) → Option Parameter → Prop
  | switch {p : Parameter} (own : p.isFor place = true) (bare : p.takesValue = false) :
      Long place p.long.toList [(p, "")] none
  | joined {p : Parameter} (own : p.isFor place = true) (takes : p.takesValue = true)
      (value : List Char) :
      Long place (p.long.toList ++ '=' :: value) [(p, String.ofList value)] none
  | ahead {p : Parameter} (own : p.isFor place = true) (takes : p.takesValue = true) :
      Long place p.long.toList [] (some p)

/-- What stands behind one dash: letters of switches, the last of which may be the letter of a
parameter with a value. -/
inductive Letters (place : Option Command) :
    List Char → List (Parameter × String) → Option Parameter → Prop
  | switch {p : Parameter} {c : Char} (own : Parameter.ofShort? place c = some p)
      (bare : p.takesValue = false) : Letters place [c] [(p, "")] none
  | switches {p : Parameter} {c : Char} (own : Parameter.ofShort? place c = some p)
      (bare : p.takesValue = false) {t : List Char} {gs : List (Parameter × String)}
      {q : Option Parameter} (rest : Letters place t gs q) :
      Letters place (c :: t) ((p, "") :: gs) q
  | joined {p : Parameter} {c : Char} (own : Parameter.ofShort? place c = some p)
      (takes : p.takesValue = true) {t : List Char} {value : String}
      (attached : Place.attached? t = some value) : Letters place (c :: t) [(p, value)] none
  | ahead {p : Parameter} {c : Char} (own : Parameter.ofShort? place c = some p)
      (takes : p.takesValue = true) : Letters place [c] [] (some p)

theorem Long.ne_nil (h : Long place cs gs q) : cs ≠ [] := by
  cases h with
  | switch => exact Parameter.long_ne_nil _
  | joined => simp
  | ahead => exact Parameter.long_ne_nil _

theorem Letters.exists_cons (h : Letters place cs gs q) : ∃ c t, cs = c :: t ∧ c ≠ '-' := by
  have isLetter {c p} (own : Parameter.ofShort? place c = some p) : c ≠ '-' := by
    rintro rfl
    simp [Parameter.ofShort?_dash] at own
  cases h with
  | switch own _ => exact ⟨_, _, rfl, isLetter own⟩
  | switches own _ _ => exact ⟨_, _, rfl, isLetter own⟩
  | joined own _ _ => exact ⟨_, _, rfl, isLetter own⟩
  | ahead own _ => exact ⟨_, _, rfl, isLetter own⟩

/-- An argument that begins with a dash. -/
inductive Word (place : Option Command) :
    List Char → List (Parameter × String) → Option Parameter → Prop
  | long {t : List Char} {gs : List (Parameter × String)} {q : Option Parameter}
      (h : Long place t gs q) : Word place ('-' :: '-' :: t) gs q
  | short {t : List Char} {gs : List (Parameter × String)} {q : Option Parameter}
      (h : Letters place t gs q) : Word place ('-' :: t) gs q

/-! ### Where the parameters belong -/

theorem Parameter.isFor_of_ofShort? {c : Char} (h : ofShort? place c = some p) :
    p.isFor place = true := by
  unfold ofShort? at h
  have both := List.find?_some h
  exact (Bool.and_eq_true_iff.1 both).1

/-- The parameters belong to a place: those that are given, and the one that lacks its value. -/
structure Belong (place : Option Command) (gs : List (Parameter × String)) (q : Option Parameter) :
    Prop where
  given : ∀ g ∈ gs, g.1.isFor place = true
  lacking : ∀ p, q = some p → p.isFor place = true

theorem Belong.given_one (h : p.isFor place = true) (v : String) : Belong place [(p, v)] none where
  given g hg := by
    obtain rfl := List.mem_singleton.1 hg
    exact h
  lacking _ hq := by cases hq

theorem Belong.lacking_one (h : p.isFor place = true) : Belong place [] (some p) where
  given _ hg := absurd hg List.not_mem_nil
  lacking _ hq := Option.some.inj hq ▸ h

theorem Belong.append {hs : List (Parameter × String)} (h : ∀ g ∈ gs, g.1.isFor place = true)
    (h' : Belong place hs q) : Belong place (gs ++ hs) q where
  given g hg := by
    rcases List.mem_append.1 hg with hg | hg
    · exact h g hg
    · exact h'.given g hg
  lacking := h'.lacking

theorem Long.belong (h : Long place cs gs q) : Belong place gs q := by
  cases h with
  | switch own => exact Belong.given_one own ""
  | joined own _ value => exact Belong.given_one own _
  | ahead own => exact Belong.lacking_one own

theorem Letters.belong (h : Letters place cs gs q) : Belong place gs q := by
  induction h with
  | switch own => exact Belong.given_one (Parameter.isFor_of_ofShort? own) ""
  | switches own _ _ ih =>
    exact Belong.append (Belong.given_one (Parameter.isFor_of_ofShort? own) "").given ih
  | joined own => exact Belong.given_one (Parameter.isFor_of_ofShort? own) _
  | ahead own => exact Belong.lacking_one (Parameter.isFor_of_ofShort? own)

theorem Word.belong (h : Word place cs gs q) : Belong place gs q := by
  cases h with
  | long h => exact h.belong
  | short h => exact h.belong

/-! ## Reading them -/

namespace Place

/-- The place with some more parameters given, one after the other. -/
def giveAll (s : Place) (gs : List (Parameter × String)) : Except Halt Place :=
  gs.foldlM (fun s g => s.give g.1 g.2) s

/-- The place with a parameter begun, if there is one. -/
def begin? (s : Place) (q : Option Parameter) : Place := { s with pending := q.map (·, none) }

/-- The place with its last parameter given, then some more, and one begun. -/
def take (s : Place) (gs : List (Parameter × String)) (q : Option Parameter) :
    Except Halt Place := do
  let s ← s.settle
  let s ← s.giveAll gs
  .ok (s.begin? q)

@[simp] theorem giveAll_nil (s : Place) : s.giveAll [] = .ok s := rfl

theorem giveAll_cons (s : Place) (g : Parameter × String) (gs : List (Parameter × String)) :
    s.giveAll (g :: gs) = s.give g.1 g.2 >>= fun s => s.giveAll gs := rfl

theorem giveAll_append (s : Place) (gs hs : List (Parameter × String)) :
    s.giveAll (gs ++ hs) = s.giveAll gs >>= fun s => s.giveAll hs := by
  simp only [giveAll, List.foldlM_append]

theorem eq_of_give {v : String} (h : s.give p v = .ok s') :
    s' = { s with given := s.given ++ [(p, v)] } := by
  unfold give at h
  split_ifs at h
  exact (Except.ok.inj h).symm

theorem settle_of_pending_eq_none (h : s.pending = none) : s.settle = .ok s := by
  rw [settle, h]

theorem pending_of_settle (h : s.settle = .ok s') : s'.pending = none ∧ s'.command = s.command := by
  unfold settle at h
  split at h
  · rename_i hn
    cases h
    exact ⟨hn, rfl⟩
  · cases h
  · rw [eq_of_give h]
    exact ⟨rfl, rfl⟩

theorem take_eq_ok_iff {gs : List (Parameter × String)} :
    s.take gs q = .ok s' ↔
      ∃ s₀ s₁, s.settle = .ok s₀ ∧ s₀.giveAll gs = .ok s₁ ∧ s' = s₁.begin? q := by
  simp only [take, bind_ok_iff, Except.ok.injEq, eq_comm (a := s'), exists_and_left]

theorem name_of_long (p : Parameter) (t : List Char) (h : t.head? = none ∨ t.head? = some '=') :
    (p.long.toList ++ t).takeWhile (· ≠ '=') = p.long.toList ∧
      (p.long.toList ++ t).dropWhile (· ≠ '=') = t := by
  have name : ∀ c ∈ p.long.toList, decide (c ≠ '=') = true := by
    intro c hc
    simpa using fun he : c = '=' => p.equals_notMem_long (he ▸ hc)
  rw [List.takeWhile_append_of_pos name, List.dropWhile_append_of_pos name]
  rcases t with - | ⟨c, t⟩
  · simp
  · obtain rfl : c = '=' := by simpa using h
    simp

theorem begin?_none (h : s.pending = none) : s.begin? none = s := by
  cases s
  cases h
  rfl

theorem take_one (s : Place) (p : Parameter) (v : String) :
    s.take [(p, v)] none = s.settle >>= fun s => s.give p v := by
  rcases hs : s.settle with halt | s₀
  · simp only [take, hs, bind, Except.bind]
  · rcases hg : s₀.give p v with halt | s₁
    · simp only [take, hs, giveAll_cons, hg, bind, Except.bind]
    · have pending : s₁.pending = none := by rw [eq_of_give hg, ← (pending_of_settle hs).1]
      simp only [take, hs, giveAll_cons, hg, bind, Except.bind, giveAll_nil, begin?_none pending]

/-- Behind two dashes the reader takes what is spelled. -/
theorem readLong_eq (h : Long s.command cs gs q) : s.readLong cs = s.take gs q := by
  unfold readLong
  cases h with
  | switch own bare =>
    rename_i p
    obtain ⟨name, rest⟩ := name_of_long p [] (Or.inl rfl)
    rw [List.append_nil] at name rest
    simp only [name, rest, Parameter.ofLong?_eq_some_iff.2 ⟨own, rfl⟩, bare, take_one]
    rfl
  | joined own takes value =>
    rename_i p
    obtain ⟨name, rest⟩ := name_of_long p ('=' :: value) (Or.inr rfl)
    simp only [name, rest, Parameter.ofLong?_eq_some_iff.2 ⟨own, rfl⟩, takes, if_true, take_one]
    rfl
  | ahead own takes =>
    rename_i p
    obtain ⟨name, rest⟩ := name_of_long p [] (Or.inl rfl)
    rw [List.append_nil] at name rest
    simp only [name, rest, Parameter.ofLong?_eq_some_iff.2 ⟨own, rfl⟩, takes, if_true]
    rfl

/-- Taking parameters begins with the first of them. -/
theorem take_cons (s : Place) (g : Parameter × String) (gs : List (Parameter × String))
    (q : Option Parameter) : s.take (g :: gs) q = s.take [g] none >>= fun s => s.take gs q := by
  rw [take_one]
  rcases hs : s.settle with halt | s₀
  · simp only [take, hs, bind, Except.bind]
  · rcases hg : s₀.give g.1 g.2 with halt | s₁
    · simp only [take, hs, giveAll_cons, hg, bind, Except.bind]
    · have pending : s₁.pending = none := by rw [eq_of_give hg, ← (pending_of_settle hs).1]
      simp only [take, hs, giveAll_cons, hg, bind, Except.bind, settle_of_pending_eq_none pending]

theorem eq_of_giveAll (h : s.giveAll gs = .ok s') : s' = { s with given := s.given ++ gs } := by
  induction gs generalizing s with
  | nil =>
    cases h
    simp
  | cons g gs ih =>
    obtain ⟨s₁, given, rest⟩ := bind_ok_iff.1 h
    rw [ih rest, eq_of_give given]
    simp

theorem command_of_take (h : s.take gs q = .ok s') : s'.command = s.command := by
  obtain ⟨s₀, s₁, settled, given, rfl⟩ := take_eq_ok_iff.1 h
  rw [eq_of_giveAll given]
  exact (pending_of_settle settled).2

/-- The letter of a switch, and then the letters behind it. -/
theorem readShort_switch {c : Char} (own : Parameter.ofShort? s.command c = some p)
    (bare : p.takesValue = false) (t : List Char) :
    s.readShort (c :: t) = s.take [(p, "")] none >>= fun s => s.readShort t := by
  simp only [readShort, own, bare, take_one]
  rcases s.settle with halt | s₀ <;> rfl

/-- Behind one dash the reader takes what is spelled. -/
theorem readShort_eq (hc : s.command = place) (h : Letters place cs gs q) :
    s.readShort cs = s.take gs q := by
  induction h generalizing s with
  | switch own bare =>
    rw [readShort_switch (hc ▸ own) bare]
    exact bind_pure _
  | switches own bare rest ih =>
    rename_i p c t gs q
    rw [readShort_switch (hc ▸ own) bare, take_cons s (p, "") gs q]
    rcases ht : s.take [(p, "")] none with halt | s₁
    · rfl
    · exact ih ((command_of_take ht).trans hc)
  | joined own takes attached =>
    simp only [readShort, hc, own, takes, if_true, enter, attached, take_one]
  | ahead own takes =>
    simp only [readShort, hc, own, takes, if_true]
    rfl

/-- What the reader understands behind two dashes is spelled. -/
theorem exists_long_of_readLong (h : s.readLong cs = .ok s') : ∃ gs q, Long s.command cs gs q := by
  rcases hp : Parameter.ofLong? s.command (cs.takeWhile (· ≠ '=')) with - | p
  · simp only [readLong, hp] at h
    cases h
  · obtain ⟨own, name⟩ := Parameter.ofLong?_eq_some_iff.1 hp
    have whole : cs = p.long.toList ++ cs.dropWhile (· ≠ '=') := by
      rw [name, List.takeWhile_append_dropWhile]
    rcases ht : p.takesValue <;> rcases hd : cs.dropWhile (· ≠ '=') with - | ⟨c, value⟩
    · rw [whole, hd, List.append_nil]
      exact ⟨_, _, .switch own ht⟩
    · simp only [readLong, hp, ht, hd] at h
      cases h
    · rw [whole, hd, List.append_nil]
      exact ⟨_, _, .ahead own ht⟩
    · have stop := List.head?_dropWhile_not (fun c : Char => decide (c ≠ '=')) cs
      rw [hd] at stop
      obtain rfl : c = '=' := by simpa using stop
      rw [whole, hd]
      exact ⟨_, _, .joined own ht value⟩

theorem exists_attached? (c : Char) (t : List Char) : ∃ v, attached? (c :: t) = some v := by
  by_cases h : c = '='
  · exact ⟨String.ofList t, by rw [h, attached?]⟩
  · exact ⟨String.ofList (c :: t), by simp [attached?, h]⟩

/-- What the reader understands behind one dash is spelled. -/
theorem exists_letters_of_readShort {c : Char} (h : s.readShort (c :: cs) = .ok s') :
    ∃ gs q, Letters s.command (c :: cs) gs q := by
  induction cs generalizing s c with
  | nil =>
    rcases hp : Parameter.ofShort? s.command c with - | p
    · simp only [readShort, hp] at h
      cases h
    · rcases ht : p.takesValue
      · exact ⟨_, _, .switch hp ht⟩
      · exact ⟨_, _, .ahead hp ht⟩
  | cons d cs ih =>
    rcases hp : Parameter.ofShort? s.command c with - | p
    · simp only [readShort, hp] at h
      cases h
    · rcases ht : p.takesValue
      · rw [readShort_switch hp ht] at h
        obtain ⟨s₁, taken, read⟩ := bind_ok_iff.1 h
        obtain ⟨gs, q, rest⟩ := ih read
        rw [command_of_take taken] at rest
        exact ⟨_, _, .switches hp ht rest⟩
      · obtain ⟨value, attached⟩ := exists_attached? d cs
        exact ⟨_, _, .joined hp ht attached⟩

end Place

end Gatekeeper.CommandLine
