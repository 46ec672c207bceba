import Gatekeeper.Proofs.Numeral.Binary64
import Gatekeeper.Toml.Value

/-!
# The tree of a document

The entries of a table are looked up by their keys. A key that has no entry is one that the table
`Lacks`, and one whose entry is the only one has the value of that entry
(`Entries.get?_eq_some_iff`).

`Value.Holds` tells what stands in a value, at any depth, and `Value.All` that a property holds of
all of it. So `Value.unfit?`, which looks for a number that no type holds, finds one wherever there
is one (`Value.unfit?_eq_none_iff`).
-/

namespace Gatekeeper.Toml

/-! ## Entries -/

namespace Entries

/-- The key has no entry. -/
def Lacks (es : Entries) (key : String) : Prop := ∀ e ∈ es, e.1 ≠ key

variable {es : Entries} {key : String} {span span' : Span} {v v' : Value}

theorem Lacks.find? (h : es.Lacks key) : List.find? (fun e => decide (e.1 = key)) es = none :=
  List.find?_eq_none.2 fun e he => by simpa using h e he

theorem Lacks.get? (h : es.Lacks key) : es.get? key = none := by
  rw [Entries.get?, h.find?]
  rfl

theorem Lacks.append (h : es.Lacks key) {es' : Entries} (h' : Lacks es' key) :
    Lacks (es ++ es') key := fun e he => (List.mem_append.1 he).elim (h e) (h' e)

theorem Lacks.get?_last (h : es.Lacks key) :
    Entries.get? (es ++ [(key, span, v)]) key = some (span, v) := by
  rw [Entries.get?, List.find?_append, h.find?]
  simp

theorem Lacks.set_last (h : es.Lacks key) :
    set (es ++ [(key, span, v)]) key span' v' = es ++ [(key, span', v')] := by
  have same : es.map (fun e => if e.1 = key then (key, span', v') else e) = es :=
    (List.map_congr_left fun e he => if_neg (h e he)).trans (List.map_id' es)
  rw [set, if_pos (by simp), List.map_append, same]
  simp

theorem lacks_of_get? (h : es.get? key = none) : es.Lacks key := by
  rw [Entries.get?, Option.map_eq_none_iff, List.find?_eq_none] at h
  intro e he same
  exact h e he (decide_eq_true same)

theorem mem_of_get? (h : es.get? key = some (span, v)) : (key, span, v) ∈ es := by
  rw [Entries.get?, Option.map_eq_some_iff] at h
  obtain ⟨e, found, rest⟩ := h
  obtain rfl : e.1 = key := by simpa using List.find?_some found
  have mem := List.mem_of_find?_eq_some found
  rwa [show e = (e.1, span, v) from Prod.ext rfl rest] at mem

/-- A key whose entry is the only one has the value of that entry. -/
theorem get?_eq_some_iff (once : (es.map (·.1)).Nodup) :
    es.get? key = some (span, v) ↔ (key, span, v) ∈ es := by
  refine ⟨mem_of_get?, fun h => ?_⟩
  induction es with
  | nil => exact absurd h List.not_mem_nil
  | cons e es ih =>
    obtain ⟨fresh, once⟩ := List.nodup_cons.1 once
    rcases List.mem_cons.1 h with rfl | h
    · simp [Entries.get?]
    · have other : e.1 ≠ key := fun same => fresh (List.mem_map.2 ⟨_, h, same.symm⟩)
      rw [← ih once h, Entries.get?, List.find?_cons_of_neg (by simpa using other), Entries.get?]

/-- The value of a key. -/
def at? (es : Entries) (key : String) : Option Value := (es.get? key).map (·.2)

/-- The entries of the table under a key; none when no table stands there. -/
def tableAt (es : Entries) (key : String) : Entries :=
  match es.at? key with
  | some (.table _ inner) => inner
  | _ => []

theorem at?_eq_some_iff : es.at? key = some v ↔ ∃ span, es.get? key = some (span, v) := by
  rw [at?, Option.map_eq_some_iff]
  constructor
  · rintro ⟨⟨span, w⟩, found, rfl⟩
    exact ⟨span, found⟩
  · rintro ⟨span, found⟩
    exact ⟨(span, v), found, rfl⟩

theorem at?_cons (e : String × Span × Value) :
    at? (e :: es) key = if e.1 = key then some e.2.2 else es.at? key := by
  rw [at?, get?, List.find?_cons]
  by_cases same : e.1 = key
  · simp [same]
  · simp [same, at?, get?]

theorem tableAt_of_at? {kind : TableKind} {inner : Entries}
    (h : es.at? key = some (.table kind inner)) : es.tableAt key = inner := by
  rw [tableAt, h]

end Entries

/-! ## What stands in a value -/

namespace Value

/-- The second value stands in the first one, at any depth, or is it. -/
inductive Holds : Value → Value → Prop
  | self (v : Value) : Holds v v
  | item {ofTables : Bool} {items : List (Span × Value)} {i : Span × Value} {w : Value}
      (mem : i ∈ items) (inside : Holds i.2 w) : Holds (array ofTables items) w
  | member {kind : TableKind} {es : Entries} {e : String × Span × Value} {w : Value}
      (mem : e ∈ es) (inside : Holds e.2.2 w) : Holds (table kind es) w

/-- The property holds of all that stands in a value. -/
def All (P : Value → Prop) (v : Value) : Prop := ∀ w, v.Holds w → P w

variable {P : Value → Prop} {kind : TableKind} {es : Entries} {ofTables : Bool}
  {items : List (Span × Value)}

theorem all_table_iff :
    (table kind es).All P ↔ P (table kind es) ∧ ∀ e ∈ es, e.2.2.All P := by
  constructor
  · intro h
    exact ⟨h _ (.self _), fun e he w hw => h w (.member he hw)⟩
  · rintro ⟨own, others⟩ w hw
    cases hw with
    | self => exact own
    | member he hw => exact others _ he w hw

theorem all_array_iff :
    (array ofTables items).All P ↔ P (array ofTables items) ∧ ∀ i ∈ items, i.2.All P := by
  constructor
  · intro h
    exact ⟨h _ (.self _), fun i hi w hw => h w (.item hi hw)⟩
  · rintro ⟨own, others⟩ w hw
    cases hw with
    | self => exact own
    | item hi hw => exact others _ hi w hw

/-- The value has no parts. -/
def IsSingle : Value → Prop
  | array _ _ | table _ _ => False
  | _ => True

theorem IsSingle.all_iff {v : Value} (h : v.IsSingle) : v.All P ↔ P v := by
  constructor
  · exact fun all => all v (.self v)
  · intro own w hw
    cases hw with
    | self => exact own
    | item => exact h.elim
    | member => exact h.elim

/-! ### Numbers that some type holds -/

/-- Some type holds the value, if it is a number: 128 bits for an integer, with a sign or without
one, and double precision for any other number, which must not reach `Numeral.Binary64.limit`. -/
def IsRead : Value → Prop
  | garbled => False
  | integer n =>
    -0x80000000000000000000000000000000 ≤ n ∧ n < 0x100000000000000000000000000000000
  | real (.finite _ digits power) => digits * Nat.pow 10 power.toNat <
      Numeral.Binary64.limit * Nat.pow 10 (-power).toNat
  | _ => True

theorem fits128_iff {n : Int} : fits128 n = true ↔ (integer n).IsRead := by
  rw [fits128, Bool.and_eq_true, decide_eq_true_eq, decide_eq_true_eq]
  rfl

theorem text?_isSome_iff {x : Real} : x.text?.isSome = true ↔ (real x).IsRead := by
  cases x with
  | nan | infinity => exact iff_of_true rfl trivial
  | finite negative digits power =>
    rw [Real.text?, Option.isSome_map, ← Option.ne_none_iff_isSome, Ne,
      Numeral.Binary64.ofDecimal?_eq_none_iff, Nat.not_le]
    rfl

theorem lesser_eq_none_iff {α : Type} {a b : Option (String × α)} :
    lesser a b = none ↔ a = none ∧ b = none := by
  rcases a with - | a
  · simp [lesser]
  · rcases b with - | b
    · simp [lesser]
    · rw [lesser]
      split <;> simp

mutual

/-- `unfit?` finds a number that no type holds wherever there is one. -/
theorem unfit?_eq_none_iff (span : Span) : (v : Value) → (v.unfit? span = none ↔ v.All IsRead)
  | string t => iff_of_true rfl ((IsSingle.all_iff (v := string t) trivial).2 trivial)
  | boolean b => iff_of_true rfl ((IsSingle.all_iff (v := boolean b) trivial).2 trivial)
  | moment t => iff_of_true rfl ((IsSingle.all_iff (v := moment t) trivial).2 trivial)
  | garbled => iff_of_false nofun fun all => all _ (.self _)
  | integer n => by
    rw [IsSingle.all_iff (v := integer n) trivial, ← fits128_iff, unfit?]
    split
    · rename_i fits
      exact iff_of_true rfl fits
    · rename_i unfit
      exact iff_of_false nofun unfit
  | real x => by
    rw [IsSingle.all_iff (v := real x) trivial, ← text?_isSome_iff, unfit?]
    split
    · rename_i fits
      exact iff_of_true rfl fits
    · rename_i unfit
      exact iff_of_false nofun unfit
  | array ofTables items => by
    rw [unfit?, unfitItem?_eq_none_iff items, all_array_iff]
    exact (and_iff_right trivial).symm
  | table kind es => by
    rw [unfit?, Option.map_eq_none_iff, unfitMember?_eq_none_iff es, all_table_iff]
    exact (and_iff_right trivial).symm

theorem unfitItem?_eq_none_iff : (items : List (Span × Value)) →
    (unfit?.unfitItem? items = none ↔ ∀ i ∈ items, i.2.All IsRead)
  | [] => iff_of_true rfl fun _ hi => absurd hi List.not_mem_nil
  | (s, v) :: items => by
    rw [unfit?.unfitItem?, Option.or_eq_none_iff, unfit?_eq_none_iff s v,
      unfitItem?_eq_none_iff items, List.forall_mem_cons]

theorem unfitMember?_eq_none_iff : (es : List (String × Span × Value)) →
    (unfit?.unfitMember? es = none ↔ ∀ e ∈ es, e.2.2.All IsRead)
  | [] => iff_of_true rfl fun _ he => absurd he List.not_mem_nil
  | (key, s, v) :: es => by
    rw [unfit?.unfitMember?, lesser_eq_none_iff, Option.map_eq_none_iff, unfit?_eq_none_iff s v,
      unfitMember?_eq_none_iff es, List.forall_mem_cons]

end

end Value

end Gatekeeper.Toml
