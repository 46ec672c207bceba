import Gatekeeper.Url.Query

/-!
# Parameters of a query string

A query string is cut at its ampersands before anything in it is decoded, so the pairs of two texts
with an ampersand between them are those of the one and then those of the other (`pairs_append`).
A look-up finds the first part that is a parameter with the key (`lookup?_eq_some_iff`). What stands
behind an ampersand counts only where nothing in front of it is found (`lookup?_append`,
`first?_append`), and question marks are left out in front of the whole text alone
(`stripped_append`).
-/

namespace Gatekeeper.Url.Query

/-! ## Pairs -/

theorem pairs_nil : pairs [] = [] := rfl

theorem pairs_append (cs ds : List Char) : pairs (cs ++ '&' :: ds) = pairs cs ++ pairs ds := by
  rw [pairs, List.splitOn_append_cons_self, List.filter_append, List.map_append, ← pairs, ← pairs]

/-- Empty parts are no pairs. -/
theorem pairs_ampersands (n : Nat) (cs : List Char) :
    pairs (List.replicate n '&' ++ cs) = pairs cs := by
  induction n with
  | zero => rfl
  | succ n ih =>
    have split := pairs_append [] (List.replicate n '&' ++ cs)
    rw [pairs_nil, List.nil_append, List.nil_append, ih] at split
    exact split

theorem pairs_of_notMem {cs : List Char} (h : '&' ∉ cs) (hne : cs ≠ []) : pairs cs = [pair cs] := by
  rw [pairs, List.splitOn_eq_singleton h, List.filter_cons_of_pos (by simp [hne])]
  rfl

theorem pair_append {k : List Char} (h : '=' ∉ k) (v : List Char) :
    pair (k ++ '=' :: v) = (decode k, decode v) := by
  have solid : ∀ c ∈ k, decide (c ≠ '=') = true := by
    intro c hc
    rw [decide_eq_true_iff]
    rintro rfl
    exact h hc
  have key : (k ++ '=' :: v).takeWhile (· ≠ '=') = k := by
    rw [List.takeWhile_append_of_pos solid, List.takeWhile_cons_of_neg (by simp), List.append_nil]
  have value : (k ++ '=' :: v).dropWhile (· ≠ '=') = '=' :: v := by
    rw [List.dropWhile_append_of_pos solid, List.dropWhile_cons_of_neg (by simp)]
  rw [pair, key, value]
  rfl

/-! ## Look-ups -/

/-- The part of a text between two ampersands is a parameter with the key. -/
def isFor (key part : List Char) : Bool := !part.isEmpty && (pair part).1 = key

theorem lookup?_eq (key cs : List Char) :
    lookup? key cs = ((cs.splitOn '&').find? (isFor key)).map fun part => (pair part).2 := by
  have test : (fun part => decide ((!part.isEmpty) = true ∧
      ((fun p : List Char × List Char => decide (p.1 = key)) ∘ pair) part = true)) = isFor key := by
    funext part
    cases part <;> simp [isFor]
  rw [lookup?, pairs, List.find?_map, List.find?_filter, Option.map_map, test]
  rfl

theorem lookup?_append (key cs ds : List Char) :
    lookup? key (cs ++ '&' :: ds) = (lookup? key cs).or (lookup? key ds) := by
  rw [lookup?_eq, lookup?_eq, lookup?_eq, List.splitOn_append_cons_self, List.find?_append,
    Option.map_or]

/-- A part is the first parameter of a text with the key. -/
structure IsFirst (key cs part : List Char) : Prop where
  isFor : isFor key part = true
  first : ∃ before after, cs.splitOn '&' = before ++ part :: after ∧
    ∀ p ∈ before, Query.isFor key p = false

/-- **A look-up** finds the value of the first parameter with the key. -/
theorem lookup?_eq_some_iff {key cs v : List Char} :
    lookup? key cs = some v ↔ ∃ part, IsFirst key cs part ∧ (pair part).2 = v := by
  rw [lookup?_eq, Option.map_eq_some_iff]
  simp only [List.find?_eq_some_iff_append, Bool.not_eq_true']
  constructor
  · rintro ⟨part, ⟨found, first⟩, value⟩
    exact ⟨part, ⟨found, first⟩, value⟩
  · rintro ⟨part, ⟨found, first⟩, value⟩
    exact ⟨part, ⟨found, first⟩, value⟩

/-! ## Question marks -/

/-- A text without the question marks in front of it. -/
def stripped (cs : List Char) : List Char := cs.dropWhile (· = '?')

/-- An ampersand keeps the question marks behind it. -/
theorem stripped_append (cs ds : List Char) :
    stripped (cs ++ '&' :: ds) = stripped cs ++ '&' :: ds := by
  rw [stripped, List.dropWhile_append]
  split
  · rename_i h
    rw [stripped, List.isEmpty_iff.1 h, List.dropWhile_cons_of_neg (by decide)]
    rfl
  · rfl

theorem stripped_replicate (n : Nat) {cs : List Char} (h : '?' ∉ cs) :
    stripped (List.replicate n '?' ++ cs) = cs := by
  rw [stripped, List.dropWhile_append_of_pos]
  · cases cs with
    | nil => rfl
    | cons c cs =>
      have other : c ≠ '?' := fun hc => h (hc ▸ List.mem_cons_self)
      rw [List.dropWhile_cons_of_neg (by simpa using other)]
  · intro c hc
    rw [List.eq_of_mem_replicate hc]
    rfl

/-- The value of the first parameter with the key, question marks kept. -/
def raw? (key query : String) : Option String :=
  (lookup? key.toList query.toList).map String.ofList

theorem first?_eq (key query : String) :
    first? key query = (lookup? key.toList (stripped query.toList)).map String.ofList := rfl

/-- **What is put behind an ampersand** counts only where nothing was found in front of it. -/
theorem first?_append (key q q' : String) :
    first? key (q ++ "&" ++ q') = (first? key q).or (raw? key q') := by
  have text : (q ++ "&" ++ q').toList = q.toList ++ '&' :: q'.toList := by
    rw [String.toList_append, String.toList_append, List.append_assoc]
    rfl
  rw [first?_eq, text, stripped_append, lookup?_append, Option.map_or]
  rfl

end Gatekeeper.Url.Query
