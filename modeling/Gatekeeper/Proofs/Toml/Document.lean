import Gatekeeper.Proofs.Toml.Statement
import Gatekeeper.Proofs.Toml.Tree

/-!
# A document of tables is read as it was written

`Section` is a table of scalars under a header. A document of sections, with a blank line between
two, is read as the tree of these tables (`parse_documentText`): the keys in their order, each with
the value that was written and the bytes where it stands.

A header opens a table at the end of the tree (`Draft.add_header`), and an assignment adds to the
table that was opened last (`Draft.add_assignment`). Neither meets what stands before it, because
names and keys are distinct.
-/

namespace Gatekeeper.Toml

open Utf8 (byteSize)

/-! ## Single statements -/

/-- A key without quotes that begins at an offset. -/
def keyAt (key : String) (offset : Nat) : Key :=
  ⟨key, ⟨offset, offset + byteSize key.toList⟩⟩

theorem key_raw {key : String} (h : IsBare key) (offset : Nat) :
    Raw.key ⟨.word, key.toList, offset⟩ = .ok (keyAt key offset) := by
  simp only [Raw.key, keyName, h.2, if_true, bind, Except.bind, String.ofList_toList]
  rfl

namespace Draft

variable {es inner : Entries} {name key : String}

/-- A header opens a table at the end of the tree. -/
theorem add_header (h : es.Lacks name) (bare : IsBare name) (path : List Key)
    (offset start stop : Nat) :
    add ⟨es, .table path⟩ (.header false [⟨.word, name.toList, offset⟩] start stop) =
      .ok ⟨es ++ [(name, ⟨start, stop⟩, .table .explicit [])], .table [keyAt name offset]⟩ := by
  simp only [add, settled, List.mapM_cons, List.mapM_nil, key_raw bare, bind, Except.bind, pure,
    Except.pure, List.getLast?_singleton, List.dropLast_singleton, Entries.update,
    Entries.openTable, keyAt, h.get?]

/-- An assignment adds to the table that was opened last. -/
theorem add_assignment (h : es.Lacks name) (h' : inner.Lacks key) (bare : IsBare key) (v : Scalar)
    (span : Span) (o a b : Nat) :
    add ⟨es ++ [(name, span, .table .explicit inner)], .table [keyAt name o]⟩
        (.assignment [⟨.word, key.toList, a⟩] (.scalar ⟨v.spelling, v.text, b⟩)) =
      .ok ⟨es ++ [(name, span,
          .table .explicit (inner ++ [(key, ⟨b, b + byteSize v.text⟩, v.value)]))],
        .table [keyAt name o]⟩ := by
  simp [add, key_raw bare, bind, Except.bind, pure,
    Except.pure, RawValue.read, v.value_raw, Entries.update, keyAt, h.get?_last, h.set_last,
    Entries.assignPath, Entries.assign, h'.get?, Raw.stop]

end Draft

/-! ## Tables -/

/-- The lines of some assignments. -/
def fieldLines (fields : List (String × Scalar)) : List Line :=
  fields.map fun f => .assignment f.1 f.2

/-- What assignments add to a table, from an offset on. -/
def fieldEntries (offset : Nat) : List (String × Scalar) → Entries
  | [] => []
  | f :: fs =>
    let start := offset + byteSize f.1.toList + 3
    (f.1, ⟨start, start + byteSize f.2.text⟩, f.2.value) ::
      fieldEntries (offset + byteSize (Line.assignment f.1 f.2).text) fs

/-- The keys need no quotes and are distinct. -/
structure PlainFields (fields : List (String × Scalar)) : Prop where
  bare : ∀ f ∈ fields, IsBare f.1
  distinct : (fields.map (·.1)).Nodup

instance (fields : List (String × Scalar)) : Decidable (PlainFields fields) :=
  decidable_of_iff (_ ∧ _) ⟨fun h => ⟨h.1, h.2⟩, fun h => ⟨h.bare, h.distinct⟩⟩

/-- Assignments add their entries to the table that was opened last. -/
theorem foldlM_fields {es inner : Entries} {name : String} (h : es.Lacks name)
    {fields : List (String × Scalar)} (plain : PlainFields fields)
    (h' : ∀ f ∈ fields, inner.Lacks f.1) (span : Span) (o offset : Nat) :
    (statementsAt offset (fieldLines fields)).foldlM Draft.add
        ⟨es ++ [(name, span, .table .explicit inner)], .table [keyAt name o]⟩ =
      .ok ⟨es ++ [(name, span, .table .explicit (inner ++ fieldEntries offset fields))],
        .table [keyAt name o]⟩ := by
  induction fields generalizing inner offset with
  | nil => rw [fieldEntries, List.append_nil]; rfl
  | cons f fs ih =>
    obtain ⟨first, others⟩ := List.forall_mem_cons.1 plain.bare
    obtain ⟨fresh, distinct⟩ := List.nodup_cons.1 plain.distinct
    have step := Draft.add_assignment h (h' f List.mem_cons_self) first f.2 span o offset
      (offset + byteSize f.1.toList + 3)
    rw [fieldLines, List.map_cons, statementsAt, Line.statements, List.singleton_append,
      List.foldlM_cons, step, ← fieldLines]
    refine (ih ⟨others, distinct⟩
      (fun g hg => (h' g (List.mem_cons_of_mem _ hg)).append ?_) _).trans ?_
    · intro e he hk
      obtain rfl := List.mem_singleton.1 he
      exact fresh (List.mem_map.2 ⟨g, hg, hk.symm⟩)
    · rw [List.append_assoc]
      rfl

/-! ## Sections -/

/-- A table of scalars under a header. -/
structure Section where
  name : String
  fields : List (String × Scalar)
  deriving DecidableEq, Repr

namespace Section

/-- The lines of the section. -/
def lines (s : Section) : List Line := .header s.name :: fieldLines s.fields

/-- The entry of the section, from an offset on. -/
def entry (offset : Nat) (s : Section) : String × Span × Value :=
  (s.name, ⟨offset, offset + 1 + byteSize s.name.toList + 1⟩,
    .table .explicit (fieldEntries (offset + byteSize (Line.header s.name).text) s.fields))

/-- Name and keys need no quotes, and the keys are distinct. -/
structure IsPlain (s : Section) : Prop where
  bare : IsBare s.name
  fields : PlainFields s.fields

instance (s : Section) : Decidable s.IsPlain :=
  decidable_of_iff (_ ∧ _) ⟨fun h => ⟨h.1, h.2⟩, fun h => ⟨h.bare, h.fields⟩⟩

theorem IsPlain.lines {s : Section} (h : s.IsPlain) : ∀ l ∈ s.lines, l.IsBare := by
  intro l hl
  rcases List.mem_cons.1 hl with rfl | hl
  · exact h.bare
  · obtain ⟨f, hf, rfl⟩ := List.mem_map.1 hl
    exact h.fields.bare f hf

/-- The statements of a section add its entry at the end of the tree. -/
theorem IsPlain.foldlM_lines {s : Section} (h : s.IsPlain) {es : Entries} (fresh : es.Lacks s.name)
    (path : List Key) (offset : Nat) :
    ∃ path', (statementsAt offset s.lines).foldlM Draft.add ⟨es, .table path⟩ =
      .ok ⟨es ++ [s.entry offset], .table path'⟩ := by
  refine ⟨[keyAt s.name (offset + 1)], ?_⟩
  rw [Section.lines, statementsAt, Line.statements, List.singleton_append, List.foldlM_cons,
    Draft.add_header fresh h.bare]
  exact foldlM_fields fresh h.fields (fun _ _ _ he => absurd he List.not_mem_nil) _ _ _

end Section

/-! ## Documents -/

/-- The lines of sections, with a blank line between two. -/
def documentLines : List Section → List Line
  | [] => []
  | [s] => s.lines
  | s :: r :: rest => s.lines ++ .blank :: documentLines (r :: rest)

/-- Sections as they are written. -/
def documentText (sections : List Section) : List Char := linesText (documentLines sections)

/-- The entries of sections, from an offset on. -/
def documentEntries (offset : Nat) : List Section → Entries
  | [] => []
  | s :: rest => s.entry offset :: documentEntries (offset + byteSize (linesText s.lines) + 1) rest

/-- Every section is plain, and the names are distinct. -/
structure PlainDocument (sections : List Section) : Prop where
  plain : ∀ s ∈ sections, s.IsPlain
  distinct : (sections.map (·.name)).Nodup

instance (sections : List Section) : Decidable (PlainDocument sections) :=
  decidable_of_iff (_ ∧ _) ⟨fun h => ⟨h.1, h.2⟩, fun h => ⟨h.plain, h.distinct⟩⟩

theorem PlainDocument.lines {sections : List Section} (h : PlainDocument sections) :
    ∀ l ∈ documentLines sections, l.IsBare := by
  induction sections using documentLines.induct with
  | case1 => exact fun _ hl => absurd hl List.not_mem_nil
  | case2 s => exact (h.plain s List.mem_cons_self).lines
  | case3 s r rest ih =>
    intro l hl
    rw [documentLines, List.mem_append, List.mem_cons] at hl
    rcases hl with hl | rfl | hl
    · exact (h.plain s List.mem_cons_self).lines l hl
    · exact trivial
    · exact ih ⟨fun t ht => h.plain t (List.mem_cons_of_mem _ ht), (List.nodup_cons.1 h.distinct).2⟩
        l hl

/-- The statements of a document add the entries of its sections at the end of the tree. -/
theorem foldlM_document {sections : List Section} (h : PlainDocument sections) {es : Entries}
    (fresh : ∀ s ∈ sections, es.Lacks s.name) (path : List Key) (offset : Nat) :
    ∃ path', (statementsAt offset (documentLines sections)).foldlM Draft.add ⟨es, .table path⟩ =
      .ok ⟨es ++ documentEntries offset sections, .table path'⟩ := by
  induction sections using documentLines.induct generalizing es path offset with
  | case1 => exact ⟨path, by rw [documentEntries, List.append_nil]; rfl⟩
  | case2 s =>
    exact (h.plain s List.mem_cons_self).foldlM_lines (fresh s List.mem_cons_self) path offset
  | case3 s r rest ih =>
    obtain ⟨plain, others⟩ := List.forall_mem_cons.1 h.plain
    obtain ⟨new, distinct⟩ := List.nodup_cons.1 h.distinct
    obtain ⟨path', first⟩ := plain.foldlM_lines (fresh s List.mem_cons_self) path offset
    have later : ∀ t ∈ r :: rest, Entries.Lacks (es ++ [s.entry offset]) t.name := by
      intro t ht
      refine (fresh t (List.mem_cons_of_mem _ ht)).append fun e he hk => ?_
      obtain rfl := List.mem_singleton.1 he
      exact new (List.mem_map.2 ⟨t, ht, hk.symm⟩)
    obtain ⟨path'', last⟩ :=
      ih ⟨others, distinct⟩ later path' (offset + byteSize (linesText s.lines) + 1)
    refine ⟨path'', ?_⟩
    rw [documentLines, statementsAt_append, List.foldlM_append, first, documentEntries]
    refine last.trans ?_
    rw [List.append_assoc]
    rfl

/-- **A document of tables is read as it was written**, each value at the bytes where it stands. -/
theorem parse_documentText {sections : List Section} (h : PlainDocument sections) :
    parse (documentText sections) = .ok (documentEntries 0 sections) := by
  have fresh : ∀ s ∈ sections, Entries.Lacks [] s.name := fun _ _ _ he =>
    absurd he List.not_mem_nil
  obtain ⟨path, read⟩ := foldlM_document h fresh [] 0
  rw [parse, documentText, statements_lines h.lines]
  simp only [bind, Except.bind]
  rw [read]
  rfl

end Gatekeeper.Toml
