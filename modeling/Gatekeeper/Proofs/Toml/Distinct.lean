import Gatekeeper.Failure
import Gatekeeper.Proofs.Toml.Tree
import Gatekeeper.Toml.Document

/-!
# No key stands twice

No table in the tree that a text spells has a key twice (`distinct_of_parse`), so a key of such a
table has one value (`Entries.Distinct.get?_eq_some_iff`).

A document grows statement by statement, each at the end of a path through its tree
(`Entries.distinct_update`). The invariant of a draft is that neither its tree nor the table that
waits for its place has a key twice (`Draft.distinct_add`). Words have no parts
(`Word.givesSingle_value`), so among the values that are read only inline tables have keys, and
these grow in the same way.
-/

namespace Gatekeeper.Toml

/-! ## Tables without a key twice -/

namespace Value

/-- The value is no table with a key twice. -/
def KeysOnce : Value → Prop
  | table _ es => (es.map (·.1)).Nodup
  | _ => True

/-- No table in the value has a key twice. -/
abbrev Distinct (v : Value) : Prop := v.All KeysOnce

end Value

namespace Entries

/-- No key stands twice, and none does in a table of the values. -/
structure Distinct (es : Entries) : Prop where
  once : (es.map (·.1)).Nodup
  inside : ∀ e ∈ es, e.2.2.Distinct

variable {es es' inner : Entries} {key : String} {span : Span} {v : Value} {kind : TableKind}

theorem distinct_table_iff : (Value.table kind es).Distinct ↔ es.Distinct :=
  Value.all_table_iff.trans ⟨fun h => ⟨h.1, h.2⟩, fun h => ⟨h.once, h.inside⟩⟩

theorem distinct_nil : Distinct [] := ⟨List.nodup_nil, fun _ he => absurd he List.not_mem_nil⟩

/-- **A key has one value.** -/
theorem Distinct.get?_eq_some_iff (h : es.Distinct) :
    es.get? key = some (span, v) ↔ (key, span, v) ∈ es := Entries.get?_eq_some_iff h.once

theorem Distinct.of_get? (h : es.Distinct) (found : es.get? key = some (span, v)) : v.Distinct :=
  h.inside _ (mem_of_get? found)

theorem Distinct.tableAt (h : es.Distinct) (key : String) : (es.tableAt key).Distinct := by
  unfold Entries.tableAt
  split
  · rename_i found
    obtain ⟨span, found⟩ := at?_eq_some_iff.1 found
    exact distinct_table_iff.1 (h.of_get? found)
  · exact distinct_nil

/-- What holds of every entry holds of the value of every key. -/
theorem Distinct.forall_mem_iff (h : es.Distinct) {P : String → Value → Prop} :
    (∀ e ∈ es, P e.1 e.2.2) ↔ ∀ key v, es.at? key = some v → P key v := by
  constructor
  · intro all key v found
    obtain ⟨span, found⟩ := at?_eq_some_iff.1 found
    exact all _ (mem_of_get? found)
  · intro all e he
    exact all e.1 e.2.2 (at?_eq_some_iff.2 ⟨e.2.1, h.get?_eq_some_iff.2 he⟩)

theorem Distinct.all_table_iff (h : es.Distinct) {P : Value → Prop} :
    (Value.table kind es).All P ↔
      P (.table kind es) ∧ ∀ key v, es.at? key = some v → v.All P := by
  rw [Value.all_table_iff, h.forall_mem_iff (P := fun _ v => v.All P)]

theorem Distinct.append (h : es.Distinct) (fresh : es.get? key = none) (hv : v.Distinct) :
    Distinct (es ++ [(key, span, v)]) := by
  constructor
  · rw [List.map_append, List.nodup_append]
    refine ⟨h.once, List.pairwise_singleton _ _, ?_⟩
    intro k hk k' hk'
    obtain ⟨e, he, rfl⟩ := List.mem_map.1 hk
    obtain rfl := List.mem_singleton.1 hk'
    exact lacks_of_get? fresh e he
  · intro e he
    rcases List.mem_append.1 he with he | he
    · exact h.inside e he
    · obtain rfl := List.mem_singleton.1 he
      exact hv

theorem Distinct.set (h : es.Distinct) (hv : v.Distinct) : (es.set key span v).Distinct := by
  unfold Entries.set
  split
  · constructor
    · have keys : ((·.1) ∘ fun e : String × Span × Value =>
          if e.1 = key then (key, span, v) else e) = (·.1) := by
        funext e
        simp only [Function.comp]
        split
        · rename_i same
          exact same.symm
        · rfl
      rw [List.map_map, keys]
      exact h.once
    · intro e he
      obtain ⟨e', he', rfl⟩ := List.mem_map.1 he
      split
      · exact hv
      · exact h.inside e' he'
  · rename_i fresh
    refine h.append (Lacks.get? fun e he same => fresh ?_) hv
    exact List.any_eq_true.2 ⟨e, he, decide_eq_true same⟩

/-! ### Additions to a tree -/

/-- A change at the end of a path leaves no key twice when the change itself does not. -/
theorem distinct_update {dotted : Bool} {f : TableKind → Entries → Except Nat Entries}
    (keeps : ∀ kind es es', Distinct es → f kind es = .ok es' → Distinct es') {path : List Key}
    (h : es.Distinct) (changed : es.update dotted f kind path = .ok es') : es'.Distinct := by
  induction kind, es, path using Entries.update.induct dotted generalizing es' with
  | case1 kind es => exact keeps kind es es' h changed
  | case2 kind es k path missing =>
    rename_i made ih
    simp only [update, missing] at changed
    obtain ⟨inner, below, done⟩ := bind_ok_iff.1 changed
    obtain rfl := Except.ok.inj done
    exact h.set (distinct_table_iff.2 (ih distinct_nil below))
  | case3 kind es k path span kind' inner found closed =>
    simp only [update, found, if_pos closed] at changed
    cases changed
  | case4 kind es k path span kind' inner found openTable ih =>
    simp only [update, found, if_neg openTable] at changed
    obtain ⟨inner', below, done⟩ := bind_ok_iff.1 changed
    obtain rfl := Except.ok.inj done
    exact h.set (distinct_table_iff.2 (ih (distinct_table_iff.1 (h.of_get? found)) below))
  | case5 kind es k path span items found span' kind' inner last ih =>
    simp only [update, found, last] at changed
    obtain ⟨inner', below, done⟩ := bind_ok_iff.1 changed
    obtain rfl := Except.ok.inj done
    have items_distinct := (Value.all_array_iff.1 (h.of_get? found)).2
    refine h.set (Value.all_array_iff.2 ⟨trivial, fun i hi => ?_⟩)
    rcases List.mem_append.1 hi with hi | hi
    · exact items_distinct i (List.dropLast_subset items hi)
    · obtain rfl := List.mem_singleton.1 hi
      have innermost := items_distinct _ (List.mem_of_getLast? last)
      exact distinct_table_iff.2 (ih (distinct_table_iff.1 innermost) below)
  | case6 kind es k path span items found noTable =>
    simp only [update, found] at changed
    cases changed
  | case7 kind es k path val noTable noArray found =>
    simp only [update, found] at changed
    cases changed

theorem distinct_assign {afterPath : Bool} {k : Key} {v : Span × Value} (hv : v.2.Distinct)
    (h : es.Distinct) (added : assign afterPath k v kind es = .ok es') : es'.Distinct := by
  unfold assign at added
  split at added
  · cases added
  · rename_i free
    obtain rfl := Except.ok.inj added
    simp only [Bool.or_eq_true, not_or, Bool.not_eq_true, Option.isSome_eq_false_iff,
      Option.isNone_iff_eq_none] at free
    exact h.append free.2 hv

theorem distinct_assignPath {keys : List Key} {v : Span × Value} (hv : v.2.Distinct)
    (h : es.Distinct) (added : es.assignPath kind keys v = .ok es') : es'.Distinct := by
  unfold assignPath at added
  split at added
  · exact distinct_update (fun _ _ _ hes => distinct_assign hv hes) h added
  · cases added

theorem distinct_openTable {k : Key} (h : es.Distinct)
    (opened : openTable k span kind es = .ok es') : es'.Distinct := by
  unfold openTable at opened
  split at opened
  · rename_i fresh
    obtain rfl := Except.ok.inj opened
    exact h.append fresh (distinct_table_iff.2 distinct_nil)
  · rename_i found
    obtain rfl := Except.ok.inj opened
    exact h.set (distinct_table_iff.2 (distinct_table_iff.1 (h.of_get? found)))
  · cases opened

theorem distinct_addItem {k : Key} {item : Entries} (hi : item.Distinct) (h : es.Distinct)
    (added : addItem k span item kind es = .ok es') : es'.Distinct := by
  have one : (Value.table .explicit item).Distinct := distinct_table_iff.2 hi
  unfold addItem at added
  split at added
  · rename_i fresh
    obtain rfl := Except.ok.inj added
    refine h.append fresh (Value.all_array_iff.2 ⟨trivial, fun i hi => ?_⟩)
    obtain rfl := List.mem_singleton.1 hi
    exact one
  · rename_i found
    obtain rfl := Except.ok.inj added
    refine h.set (Value.all_array_iff.2 ⟨trivial, fun i hi => ?_⟩)
    rcases List.mem_append.1 hi with hi | hi
    · exact (Value.all_array_iff.1 (h.of_get? found)).2 i hi
    · obtain rfl := List.mem_singleton.1 hi
      exact one
  · cases added

end Entries

/-! ## Values as they are read -/

/-- What a reader of words gives, if anything, has no parts. -/
def GivesSingle (x : Except Nat Value) : Prop := ∀ v, x = .ok v → v.IsSingle

theorem givesSingle_error (fault : Nat) : GivesSingle (.error fault) := fun _ h => nomatch h

theorem givesSingle_ok {v : Value} (h : v.IsSingle) : GivesSingle (.ok v) :=
  fun _ same => Except.ok.inj same ▸ h

namespace Word

theorem givesSingle_inBase (base start offset stop : Nat) (ds : List Char) :
    GivesSingle (inBase base start offset stop ds) := by
  unfold inBase
  repeat' split
  all_goals first | exact givesSingle_error _ | exact givesSingle_ok trivial

theorem givesSingle_integer (negative : Bool) (start offset stop : Nat) (text ds : List Char) :
    GivesSingle (integer negative start offset stop text ds) := by
  unfold integer
  repeat' split
  all_goals first | exact givesSingle_error _ | exact givesSingle_ok trivial

theorem givesSingle_numberOrMoment (r : Raw) (negative : Bool) (offset : Nat) (body : List Char) :
    GivesSingle (numberOrMoment r negative offset body) := by
  unfold numberOrMoment
  split
  · exact givesSingle_integer _ _ _ _ _ _
  · split
    · split
      · exact givesSingle_ok trivial
      · exact givesSingle_error _
    · split
      · exact givesSingle_error _
      · split
        · intro v h
          obtain ⟨x, -, h⟩ := bind_ok_iff.1 h
          split at h
          · cases h
          · obtain rfl := Except.ok.inj h
            trivial
        · split
          · exact givesSingle_integer _ _ _ _ _ _
          · exact givesSingle_error _

theorem givesSingle_signed (r : Raw) (negative : Bool) (body : List Char) :
    GivesSingle (signed r negative body) := by
  unfold signed
  repeat' split
  all_goals first
    | exact givesSingle_error _
    | exact givesSingle_ok trivial
    | exact givesSingle_numberOrMoment _ _ _ _

theorem givesSingle_unsigned (r : Raw) : GivesSingle (unsigned r) := by
  unfold unsigned
  repeat' split
  all_goals first
    | exact givesSingle_error _
    | exact givesSingle_inBase _ _ _ _ _
    | exact givesSingle_numberOrMoment _ _ _ _

theorem givesSingle_value (r : Raw) : GivesSingle (value r) := by
  unfold value
  repeat' split
  all_goals first
    | exact givesSingle_error _
    | exact givesSingle_ok trivial
    | exact givesSingle_signed _ _ _
    | exact givesSingle_unsigned _

end Word

theorem Raw.givesSingle_value (r : Raw) : GivesSingle r.value := by
  unfold Raw.value
  split
  · exact Word.givesSingle_value r
  · exact givesSingle_error _
  · intro v h
    cases hq : quotedText r with
    | error f => rw [hq] at h; cases h
    | ok cs =>
      rw [hq] at h
      obtain rfl := Except.ok.inj h
      trivial

namespace RawValue

mutual

/-- A value that is read has no table with a key twice. -/
theorem distinct_of_read : (r : RawValue) → (v : Span × Value) → r.read = .ok v → v.2.Distinct
  | scalar r, v, h => by
    rw [read] at h
    obtain ⟨w, single, h⟩ := bind_ok_iff.1 h
    obtain rfl := Except.ok.inj h
    have hw := Raw.givesSingle_value r w single
    refine hw.all_iff.2 ?_
    cases w with
    | table => exact hw.elim
    | _ => trivial
  | array start stop items, v, h => by
    rw [read] at h
    obtain ⟨vs, inside, h⟩ := bind_ok_iff.1 h
    obtain rfl := Except.ok.inj h
    exact Value.all_array_iff.2 ⟨trivial, distinct_of_readItems items vs inside⟩
  | inlineTable start stop entries, v, h => by
    rw [read] at h
    obtain ⟨es, inside, h⟩ := bind_ok_iff.1 h
    obtain rfl := Except.ok.inj h
    exact Entries.distinct_table_iff.2
      (distinct_of_readEntries entries [] es Entries.distinct_nil inside)

theorem distinct_of_readItems : (rs : List RawValue) → (vs : List (Span × Value)) →
    read.readItems rs = .ok vs → ∀ v ∈ vs, v.2.Distinct
  | [], vs, h, v, mem => by
    obtain rfl := Except.ok.inj h
    exact absurd mem List.not_mem_nil
  | r :: rs, vs, h, v, mem => by
    rw [read.readItems] at h
    obtain ⟨first, readFirst, h⟩ := bind_ok_iff.1 h
    obtain ⟨others, readOthers, h⟩ := bind_ok_iff.1 h
    obtain rfl := Except.ok.inj h
    rcases List.mem_cons.1 mem with rfl | mem
    · exact distinct_of_read r _ readFirst
    · exact distinct_of_readItems rs others readOthers v mem

theorem distinct_of_readEntries : (rs : List (List Raw × RawValue)) → (es es' : Entries) →
    es.Distinct → read.readEntries es rs = .ok es' → es'.Distinct
  | [], es, es', distinct, h => by
    obtain rfl := Except.ok.inj h
    exact distinct
  | (keys, r) :: rs, es, es', distinct, h => by
    rw [read.readEntries] at h
    obtain ⟨path, -, h⟩ := bind_ok_iff.1 h
    obtain ⟨v, readValue, h⟩ := bind_ok_iff.1 h
    obtain ⟨more, added, h⟩ := bind_ok_iff.1 h
    have value := distinct_of_read r v readValue
    exact distinct_of_readEntries rs more es' (Entries.distinct_assignPath value distinct added) h

end

end RawValue

/-! ## Documents as they are read -/

/-- The table that waits for its place in the tree has no key twice. -/
def Target.Distinct : Target → Prop
  | table _ => True
  | item _ _ _ entries => Entries.Distinct entries

/-- What every step keeps up holds at the end of a row of steps. -/
theorem foldlM_invariant {ε α β : Type} {P : β → Prop} {step : β → α → Except ε β}
    (keeps : ∀ b a b', P b → step b a = .ok b' → P b') {as : List α} {b b' : β} (hb : P b)
    (h : as.foldlM step b = .ok b') : P b' := by
  induction as generalizing b with
  | nil =>
    obtain rfl := Except.ok.inj h
    exact hb
  | cons a as ih =>
    rw [List.foldlM_cons] at h
    obtain ⟨middle, first, others⟩ := bind_ok_iff.1 h
    exact ih (keeps b a middle hb first) others

/-- Neither the tree nor what waits for its place in it has a table with a key twice. -/
structure Draft.Distinct (d : Draft) : Prop where
  entries : d.entries.Distinct
  target : d.target.Distinct

namespace Draft

variable {d d' : Draft} {es : Entries}

theorem Distinct.settled (h : d.Distinct) (settled : d.settled = .ok es) : es.Distinct := by
  obtain ⟨entries, target⟩ := d
  cases target with
  | table path =>
    obtain rfl := Except.ok.inj settled
    exact h.entries
  | item path key span item =>
    exact Entries.distinct_update (fun _ _ _ => Entries.distinct_addItem h.target) h.entries settled

/-- **A statement adds no key a second time.** -/
theorem distinct_add {s : Statement} (h : d.Distinct) (added : d.add s = .ok d') : d'.Distinct := by
  cases s with
  | header ofArray keys start stop =>
    rw [add] at added
    obtain ⟨entries, settled, added⟩ := bind_ok_iff.1 added
    obtain ⟨path, -, added⟩ := bind_ok_iff.1 added
    have distinct := h.settled settled
    split at added
    · cases added
    · obtain rfl := Except.ok.inj added
      exact ⟨distinct, Entries.distinct_nil⟩
    · obtain ⟨opened, update, added⟩ := bind_ok_iff.1 added
      obtain rfl := Except.ok.inj added
      exact ⟨Entries.distinct_update (fun _ _ _ => Entries.distinct_openTable) distinct update,
        trivial⟩
  | assignment keys r =>
    rw [add] at added
    obtain ⟨path, -, added⟩ := bind_ok_iff.1 added
    obtain ⟨v, read, added⟩ := bind_ok_iff.1 added
    have value := RawValue.distinct_of_read r v read
    obtain ⟨entries, target⟩ := d
    cases target with
    | table place =>
      obtain ⟨assigned, update, added⟩ := bind_ok_iff.1 added
      obtain rfl := Except.ok.inj added
      exact ⟨Entries.distinct_update (fun _ _ _ => Entries.distinct_assignPath value) h.entries
        update, trivial⟩
    | item place key span item =>
      obtain ⟨more, assigned, added⟩ := bind_ok_iff.1 added
      obtain rfl := Except.ok.inj added
      exact ⟨h.entries, Entries.distinct_assignPath value h.target assigned⟩

end Draft

/-- **The tree that a text spells has no table with a key twice.** -/
theorem distinct_of_parse {text : List Char} {es : Entries} (h : parse text = .ok es) :
    es.Distinct := by
  obtain ⟨statements, -, h⟩ := bind_ok_iff.1 h
  obtain ⟨draft, read, settled⟩ := bind_ok_iff.1 h
  have start : Draft.Distinct {} := ⟨Entries.distinct_nil, trivial⟩
  exact (foldlM_invariant (fun _ _ _ => Draft.distinct_add) start read).settled settled

end Gatekeeper.Toml
