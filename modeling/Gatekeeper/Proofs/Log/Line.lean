import Gatekeeper.Log.Line
import Gatekeeper.Proofs.Json.Written
import Gatekeeper.Proofs.Numeral.Hex
import Mathlib.Data.List.Forall2

/-!
# What a log line shows

A line shows its event in either format (`shows_line`), so the lines that are written show the
events in their order, each in a line of its own (`forall₂_shows_lines`).

* A plain line has the level in a column, the target, the message and then the fields
  (`ShowsPlainly`). The message stands there as it is, but for the characters that act on a
  terminal: these are told by their numbers.
* A line of JSON is one document, with no line end inside, and the document holds the event
  (`ShowsAsJson`). It shows this event alone (`ShowsAsJson.unique`).
-/

namespace Gatekeeper.Log

variable {e e' : Event} {c : Char}

/-! ## Levels -/

theorem Level.eq_of_name_eq {l l' : Level} (h : l.name = l'.name) : l = l' := by
  cases l <;> cases l' <;> first | rfl | exact absurd h (by decide)

/-- The level in a column of five characters, with blanks before it. -/
def ShowsLevel (column : String) (l : Level) : Prop :=
  column.length = 5 ∧ ∃ n, column = String.ofList (List.replicate n ' ') ++ l.name

theorem showsLevel_column (l : Level) : ShowsLevel l.column l :=
  ⟨by cases l <;> rfl, _, rfl⟩

/-! ## Messages -/

/-- The character acts on a terminal, by itself or by what follows it: escape, bell, backspace, form
feed, delete, and the controls behind ASCII. -/
def Acts (c : Char) : Prop :=
  c ∈ ['\x1b', '\x07', '\x08', '\x0c', '\x7f'] ∨ 0x80 ≤ c.toNat ∧ c.toNat ≤ 0x9f

instance (c : Char) : Decidable (Acts c) := inferInstanceAs (Decidable (_ ∨ _))

/-- A text shows a character: by itself, or by its number where it acts on a terminal. -/
inductive ShowsChar : List Char → Char → Prop
  | plain {c : Char} (h : ¬ Acts c) : ShowsChar [c] c
  | short {c : Char} {ds : List Char} (h : Acts c) (length : ds.length = 2)
    (digits : ∀ d ∈ ds, Numeral.isHexDigit d = true) (value : Numeral.ofHexDigits ds = c.toNat) :
    ShowsChar ('\\' :: 'x' :: ds) c
  | long {c : Char} {ds : List Char} (h : Acts c)
    (digits : ∀ d ∈ ds, Numeral.isHexDigit d = true) (value : Numeral.ofHexDigits ds = c.toNat) :
    ShowsChar ('\\' :: 'u' :: '\x7b' :: (ds ++ ['\x7d'])) c

/-- A text shows a message character by character. -/
def ShowsMessage (text message : String) : Prop :=
  ∃ pieces : List (List Char), text = String.ofList pieces.flatten ∧
    List.Forall₂ ShowsChar pieces message.toList

theorem showsChar_messageChar (c : Char) : ShowsChar (messageChar c) c := by
  unfold messageChar
  split_ifs with escape bell backspace page delete high
  -- Five characters of ASCII are told by two digits.
  iterate 5
    · subst c
      exact .short (.inl (by decide)) rfl (List.all_eq_true.1 (by decide)) (by decide)
  · rw [Bool.and_eq_true, decide_eq_true_eq, decide_eq_true_eq] at high
    exact .long (.inr high) (fun _ => Numeral.isHexDigit_of_mem_hexDigits)
      (Numeral.ofHexDigits_hexDigits c.toNat)
  · refine .plain ?_
    rintro (listed | numbered)
    · simp [escape, bell, backspace, page, delete] at listed
    · simp [numbered] at high

theorem showsMessage_messageText (s : String) : ShowsMessage (messageText s) s :=
  ⟨s.toList.map messageChar, by rw [messageText, List.flatMap_def],
    List.forall₂_map_left_iff.2 (List.forall₂_same.2 fun c _ => showsChar_messageChar c)⟩

theorem not_acts_of_isHexDigit {d : Char} (h : Numeral.isHexDigit d = true) : ¬ Acts d := by
  have ascii := Numeral.toNat_of_isHexDigit h
  rintro (listed | numbered)
  · simp only [List.mem_cons, List.not_mem_nil, or_false] at listed
    rcases listed with rfl | rfl | rfl | rfl | rfl <;> exact absurd h (by decide)
  · omega

/-- Nothing that a character is shown by acts on a terminal. -/
theorem ShowsChar.not_acts {t : List Char} (h : ShowsChar t c) : ∀ d ∈ t, ¬ Acts d := by
  cases h with
  | plain h => exact List.forall_mem_singleton.2 h
  | short _ _ digits =>
    simp only [List.mem_cons]
    rintro d (rfl | rfl | hd)
    · decide
    · decide
    · exact not_acts_of_isHexDigit (digits d hd)
  | long _ digits =>
    simp only [List.mem_cons, List.mem_append, List.not_mem_nil, or_false]
    rintro d (rfl | rfl | rfl | hd | rfl)
    · decide
    · decide
    · decide
    · exact not_acts_of_isHexDigit (digits d hd)
    · decide

/-- **A message that is shown cannot act on a terminal.** -/
theorem not_acts_of_showsMessage {text message : String} (h : ShowsMessage text message) :
    ∀ c ∈ text.toList, ¬ Acts c := by
  obtain ⟨pieces, rfl, shown⟩ := h
  rw [String.toList_ofList]
  generalize message.toList = cs at shown
  induction shown with
  | nil => exact List.forall_mem_nil _
  | cons first _ ih => exact List.forall_mem_append.2 ⟨first.not_acts, ih⟩

/-! ## Plain lines -/

/-- A plain line shows an event: level, target, message, and each field as its name and value. -/
def ShowsPlainly (line : String) (e : Event) : Prop :=
  ∃ column message, ShowsLevel column e.level ∧ ShowsMessage message e.message ∧
    line = column ++ " " ++ e.target ++ ": " ++ message ++
      String.join (e.fields.map fun f => " " ++ f.1 ++ "=" ++ f.2)

theorem intercalate_eq_join (between first : String) (others : List String) :
    between.intercalate (first :: others) = first ++ String.join (others.map (between ++ ·)) := by
  induction others generalizing first with
  | nil => simp
  | cons second others ih =>
    rw [String.intercalate_cons_cons, ih, List.map_cons, String.join_cons, String.append_assoc,
      String.append_assoc]

theorem showsPlainly_plainLine (e : Event) : ShowsPlainly e.plainLine e := by
  refine ⟨e.level.column, messageText e.message, showsLevel_column e.level,
    showsMessage_messageText e.message, ?_⟩
  rw [Event.plainLine, intercalate_eq_join, List.map_map]
  rfl

example : Event.plainLine ⟨.warn, "guard", "gone\x1b[2J", [("code", "52")]⟩ =
    " WARN guard: gone\\x1b[2J code=52" := by decide

/-! ## Lines of JSON -/

/-- The document holds the event and nothing else: its level, its fields behind its message, and its
target. -/
def HoldsEvent (doc : Json) (e : Event) : Prop :=
  doc = .object [
    ("level", .string e.level.name),
    ("fields", .object (("message", .string e.message) ::
      e.fields.map fun f => (f.1, .string f.2))),
    ("target", .string e.target)]

/-- A document holds one event. -/
theorem HoldsEvent.unique {doc : Json} (h : HoldsEvent doc e) (h' : HoldsEvent doc e') :
    e = e' := by
  obtain ⟨level, target, message, fields⟩ := e
  obtain ⟨level', target', message', fields'⟩ := e'
  rw [HoldsEvent] at h h'
  rw [h] at h'
  simp only [Json.object.injEq, List.cons.injEq, Prod.mk.injEq, Json.string.injEq, true_and,
    and_true] at h'
  obtain ⟨name, ⟨rfl, fieldsEq⟩, rfl⟩ := h'
  obtain rfl := Level.eq_of_name_eq name
  have member : Function.Injective fun f : String × String => (f.1, Json.string f.2) := by
    rintro ⟨k, v⟩ ⟨k', v'⟩ same
    simpa using same
  rw [List.map_injective_iff.2 member fieldsEq]

/-- A line shows an event as one document, with no line ends inside, that holds the event. -/
structure ShowsAsJson (line : String) (e : Event) : Prop where
  oneLine : Json.OnOneLine line.toList
  document : ∃ doc, Json.IsDocument line doc ∧ HoldsEvent doc e

theorem wellSpelled_event (e : Event) : Json.WellSpelled e.json := by
  have fields : ∀ f ∈ e.fields.map fun f => (f.1, Json.string f.2), Json.WellSpelled f.2 := by
    intro f hf
    obtain ⟨f, -, rfl⟩ := List.mem_map.1 hf
    exact .string _
  refine .object (List.forall_mem_cons.2 ⟨.string _, List.forall_mem_cons.2 ⟨.object ?_,
    List.forall_mem_singleton.2 (.string _)⟩⟩)
  exact List.forall_mem_cons.2 ⟨.string _, fields⟩

theorem showsAsJson_jsonLine (e : Event) : ShowsAsJson e.jsonLine e where
  oneLine := by
    rw [Event.jsonLine, Json.toLine, String.toList_ofList]
    exact Json.onOneLine_compact (wellSpelled_event e)
  document := ⟨e.json, Json.isDocument_toLine (wellSpelled_event e), rfl⟩

/-- A line of JSON shows one event. -/
theorem ShowsAsJson.unique {line : String} (h : ShowsAsJson line e) (h' : ShowsAsJson line e') :
    e = e' := by
  obtain ⟨doc, isDocument, holds⟩ := h.document
  obtain ⟨doc', isDocument', holds'⟩ := h'.document
  obtain rfl := isDocument.unique doc' isDocument'.spelled
  exact holds.unique holds'

/-! ## Lines in either format -/

/-- A line shows an event in a format. -/
def Shows (asJson : Bool) (line : String) (e : Event) : Prop :=
  if asJson then ShowsAsJson line e else ShowsPlainly line e

/-- **A line of an event shows this event.** -/
theorem shows_line (asJson : Bool) (e : Event) : Shows asJson (e.line asJson) e := by
  cases asJson
  · exact showsPlainly_plainLine e
  · exact showsAsJson_jsonLine e

/-- **The lines of events** show these events in their order, each once. -/
theorem forall₂_shows_lines (asJson : Bool) (events : List Event) :
    List.Forall₂ (Shows asJson) (events.map (Event.line asJson)) events :=
  List.forall₂_map_left_iff.2 (List.forall₂_same.2 fun e _ => shows_line asJson e)

end Gatekeeper.Log
