import Gatekeeper.Toml.Text
import Gatekeeper.Toml.Word
/-!
# TOML documents

`parse` reads a text as the table of its entries, or gives the offset of its first fault. A
statement out of shape anywhere comes before a fault of content; those come in the order of the
document: the keys of a statement, its value, and then its place in the tree. A table of an array
gets its place when all its assignments are read, so a fault of that place comes after theirs.

Where a statement may add to the tree:

* A table gets a header once. The tables in the path of a header are there by implication and may
  get a header of their own later.
* A path in an assignment makes tables of its own kind and goes through no other: neither through
  one with a header nor through one between braces, which nothing can be added to at all.
* A path through an array of tables goes on in the last of them.
* No key is given two values.
-/

namespace Gatekeeper.Toml

/-- A key of a path. -/
structure Key where
  name : String
  span : Span
  deriving DecidableEq, Repr

/-- The key that is spelled. -/
def Raw.key (r : Raw) : Except Nat Key := do
  let name ← keyName r
  .ok ⟨String.ofList name, ⟨r.start, r.stop⟩⟩

/-! ## Places in the tree -/

/-- Changes the table at the end of a path by `f`, which is told the kind of that table. Tables
that are missing on the way are made; `dotted` tells whether the path is that of an assignment. -/
def Entries.update (dotted : Bool) (f : TableKind → Entries → Except Nat Entries)
    (kind : TableKind) (es : Entries) : List Key → Except Nat Entries
  | [] => f kind es
  | k :: path =>
    match es.get? k.name with
    | none => do
      let made := if dotted then .dotted else .implied
      let inner ← update dotted f made [] path
      .ok (es.set k.name k.span (.table made inner))
    | some (span, .table kind inner) =>
      if kind = .inline || (dotted && kind = .explicit) then .error k.span.start
      else do
        let inner ← update dotted f kind inner path
        .ok (es.set k.name span (.table kind inner))
    | some (span, .array true items) =>
      match items.getLast? with
      | some (last, .table kind inner) => do
        let inner ← update dotted f kind inner path
        .ok (es.set k.name span (.array true (items.dropLast ++ [(last, .table kind inner)])))
      | _ => .error k.span.start
    | some _ => .error k.span.start

/-- Gives a new key of a table a value. The table was made by the path of an assignment exactly
when there is such a path. -/
def Entries.assign (afterPath : Bool) (key : Key) (v : Span × Value) (kind : TableKind)
    (es : Entries) : Except Nat Entries :=
  if (kind == .dotted) != afterPath || (es.get? key.name).isSome then .error key.span.start
  else .ok (es ++ [(key.name, v)])

/-- Gives the end of a path a value, in a table of some kind. -/
def Entries.assignPath (kind : TableKind) (es : Entries) (keys : List Key) (v : Span × Value) :
    Except Nat Entries :=
  match keys.getLast? with
  | some key => es.update true (assign (!keys.dropLast.isEmpty) key v) kind keys.dropLast
  | none => .error v.1.start

/-- Opens the table that a header names. -/
def Entries.openTable (key : Key) (span : Span) (_ : TableKind) (es : Entries) :
    Except Nat Entries :=
  match es.get? key.name with
  | none => .ok (es ++ [(key.name, span, .table .explicit [])])
  | some (_, .table .implied inner) => .ok (es.set key.name span (.table .explicit inner))
  | some _ => .error key.span.start

/-- Adds one more table to the array that a header names. -/
def Entries.addItem (key : Key) (span : Span) (item : Entries) (_ : TableKind) (es : Entries) :
    Except Nat Entries :=
  match es.get? key.name with
  | none => .ok (es ++ [(key.name, span, .array true [(span, .table .explicit item)])])
  | some (first, .array true items) =>
    .ok (es.set key.name first (.array true (items ++ [(span, .table .explicit item)])))
  | some _ => .error key.span.start

/-! ## Values -/

/-- What a single word or string says. -/
def Raw.value (r : Raw) : Except Nat Value :=
  match r.spelling with
  | .word => Word.value r
  | .absent => .error r.start
  | _ => (quotedText r).map fun cs => .string (String.ofList cs)

/-- What a value says, and the bytes it takes. -/
def RawValue.read : RawValue → Except Nat (Span × Value)
  | scalar r => do
    let v ← r.value
    .ok (⟨r.start, r.stop⟩, v)
  | array start stop items => do
    let vs ← readItems items
    .ok (⟨start, stop⟩, .array false vs)
  | inlineTable start stop entries => do
    let es ← readEntries [] entries
    .ok (⟨start, stop⟩, .table .inline es)
where
  /-- The items of an array. -/
  readItems : List RawValue → Except Nat (List (Span × Value))
    | [] => .ok []
    | r :: rs => do
      let v ← r.read
      let vs ← readItems rs
      .ok (v :: vs)
  /-- The entries of an inline table, after those already read. -/
  readEntries (es : Entries) : List (List Raw × RawValue) → Except Nat Entries
    | [] => .ok es
    | (keys, r) :: rs => do
      let keys ← keys.mapM Raw.key
      let v ← r.read
      let es ← es.assignPath .inline keys v
      readEntries es rs

/-! ## Statements -/

/-- Where the assignments after a header go. -/
inductive Target
  /-- Into the table at the end of a path, which is in the tree. -/
  | table (path : List Key)
  /-- Into a table of the array at the end of a path, which is not in the tree yet. -/
  | item (path : List Key) (key : Key) (span : Span) (entries : Entries)

/-- A document as far as it is read: its tree, and where an assignment goes. -/
structure Draft where
  entries : Entries := []
  target : Target := .table []

/-- The tree with everything that is read in its place. -/
def Draft.settled (d : Draft) : Except Nat Entries :=
  match d.target with
  | .table _ => .ok d.entries
  | .item path key span item =>
    d.entries.update false (Entries.addItem key span item) .explicit path

/-- Adds a statement. -/
def Draft.add (d : Draft) : Statement → Except Nat Draft
  | .header ofArray keys start stop => do
    let entries ← d.settled
    let keys ← keys.mapM Raw.key
    match keys.getLast?, ofArray with
    | none, _ => .error start
    | some key, true => .ok ⟨entries, .item keys.dropLast key ⟨start, stop⟩ []⟩
    | some key, false => do
      let entries ←
        entries.update false (Entries.openTable key ⟨start, stop⟩) .explicit keys.dropLast
      .ok ⟨entries, .table keys⟩
  | .assignment keys r => do
    let keys ← keys.mapM Raw.key
    let v ← r.read
    match d.target with
    | .table path => do
      let entries ←
        d.entries.update false (fun kind es => es.assignPath kind keys v) .explicit path
      .ok ⟨entries, d.target⟩
    | .item path key span item => do
      let item ← item.assignPath .explicit keys v
      .ok ⟨d.entries, .item path key span item⟩

/-- The table that a text spells, or the offset of its first fault. -/
def parse (text : List Char) : Except Nat Entries := do
  let draft ← (← statements text).foldlM Draft.add {}
  draft.settled

end Gatekeeper.Toml
