import Gatekeeper.Proofs.CommandLine.Place

/-!
# Command lines

A `Line` is what a command line gives before its command, the command, and what it gives after it.
A command line is understood if and only if its arguments spell a valid line, and then its arguments
are those of the line (`Arguments.read_eq_ok_iff`).
-/

namespace Gatekeeper.CommandLine

open Settings (Lookup)

/-- A command line: what is given before its command, the command, and what is given after it. -/
structure Line where
  before : List (Parameter × String)
  command : Command
  after : List (Parameter × String)

namespace Line

/-- The arguments of a line. Two dashes may end it. -/
inductive SpelledBy (l : Line) : List String → Prop
  | line {as bs : List String} (before : Spells none none as l.before)
      (after : Spells (some l.command) none bs l.after) {rest : List String}
      (closes : Closes (some l.command) rest none) :
      SpelledBy l (as ++ l.command.word :: (bs ++ rest))

/-- What is given in each place may be given together. -/
structure IsValid (l : Line) : Prop where
  before : Valid l.before
  after : Valid l.after

/-- The arguments that a line gives. -/
def arguments (l : Line) (env : Lookup) : Arguments :=
  .ofPlaces env ⟨none, l.before, none⟩ l.command ⟨some l.command, l.after, none⟩

end Line

theorem Turn.ofWord?_eq_command_iff {a : String} {c : Command} :
    ofWord? a = some (.command c) ↔ a = c.word := by
  constructor
  · intro h
    unfold ofWord? at h
    split_ifs at h
    · cases h
    · obtain ⟨_, hc, same⟩ := Option.map_eq_some_iff.1 h
      obtain rfl := Turn.command.inj same
      simpa [eq_comm] using List.find?_some hc
  · rintro rfl
    have other : c.word ≠ "help" := by cases c <;> decide
    rw [ofWord?, if_neg other, Command.ofWord?_word]
    rfl

/-- **A command line is understood** if and only if it spells a valid line. -/
theorem Arguments.read_eq_ok_iff {env : Lookup} {args : List String} {a : Arguments} :
    read env args = .ok a ↔ ∃ l : Line, l.SpelledBy args ∧ l.IsValid ∧ a = l.arguments env := by
  unfold read
  constructor
  · intro h
    obtain ⟨⟨s, turn⟩, readBefore, h⟩ := bind_ok_iff.1 h
    rcases turn with - | ⟨c | -, others⟩
    · obtain ⟨before, settled, h⟩ := bind_ok_iff.1 h
      split_ifs at h
    · obtain ⟨⟨s', turn⟩, readAfter, h⟩ := bind_ok_iff.1 h
      obtain ⟨after, settledAfter, h⟩ := bind_ok_iff.1 h
      obtain ⟨before, settledBefore, h⟩ := bind_ok_iff.1 h
      obtain rfl := Except.ok.inj h
      obtain ⟨as, _, gs, rfl, spelled, ends, valid, rfl⟩ :=
        Place.exists_read_iff.1 ⟨s, readBefore, settledBefore⟩
      obtain ⟨bs, rest, hs, rfl, spelled', ends', valid', rfl⟩ :=
        Place.exists_read_iff.1 ⟨s', readAfter, settledAfter⟩
      rcases ends with - | - | ⟨-, word, -⟩
      obtain rfl := Turn.ofWord?_eq_command_iff.1 word
      exact ⟨⟨gs, c, hs⟩, .line spelled spelled' (ends'.eq_none ▸ ends'), ⟨valid, valid'⟩, rfl⟩
    · cases h
  · rintro ⟨⟨gs, c, hs⟩, ⟨before, after, ends⟩, ⟨valid, valid'⟩, rfl⟩
    rename_i as bs rest
    have readsBefore : ∃ s : Place,
        ({ command := none } : Place).read (as ++ c.word :: (bs ++ rest)) =
          .ok (s, some (.command c, bs ++ rest)) ∧ s.settle = .ok ⟨none, gs, none⟩ :=
      Place.exists_read_iff.2
        ⟨as, _, gs, rfl, before, .turn rfl (Turn.ofWord?_eq_command_iff.2 rfl) _, valid, rfl⟩
    have readsAfter : ∃ s : Place, ({ command := some c } : Place).read (bs ++ rest) =
        .ok (s, none) ∧ s.settle = .ok ⟨some c, hs, none⟩ :=
      Place.exists_read_iff.2 ⟨bs, rest, hs, rfl, after, ends, valid', rfl⟩
    obtain ⟨s, readBefore, settledBefore⟩ := readsBefore
    obtain ⟨s', readAfter, settledAfter⟩ := readsAfter
    simp only [readBefore, readAfter, settledBefore, settledAfter, bind, Except.bind]
    rfl

end Gatekeeper.CommandLine
