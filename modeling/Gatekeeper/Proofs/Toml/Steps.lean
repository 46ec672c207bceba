import Gatekeeper.Toml.Statement

/-!
# Enough steps

Reading the tokens of a document may take a number of steps that is set from the start, and running
out of them would be an error of its own. It never is (`statementsOf_tokens`).

One predicate goes through all the readers: a reading comes to an end, and what it leaves is short
enough (`Reading.Leaves`). A value, an item or an entry takes a token at least. Where `items` and
`entries` take none in a step, they go over to the value or the keys that begin there, so two steps
for each token are enough for a value, and one more inside brackets (`Enough`).
-/

namespace Gatekeeper.Toml

variable {α β : Type} {limit fuel depth n m : Nat} {t : Token} {ts : List Token}

/-! ## Readings that end -/

/-- The reading ends before its steps run out, and a success leaves at most `n` tokens. -/
structure Reading.Leaves (left : α → List Token) (n : Nat) (x : Reading α) : Prop where
  ends : x ≠ .error none
  length_le : ∀ a, x = .ok a → (left a).length ≤ n

namespace Reading

variable {left : α → List Token} {left' : β → List Token} {x : Reading α} {k : α → Reading β}

theorem leaves_ok {a : α} (h : (left a).length ≤ n) : Leaves left n (.ok a) :=
  ⟨nofun, fun _ same => Except.ok.inj same ▸ h⟩

theorem leaves_fault (offset : Nat) : Leaves left n (.error (some offset)) := ⟨nofun, nofun⟩

theorem Leaves.mono (h : Leaves left n x) (le : n ≤ m) : Leaves left m x :=
  ⟨h.ends, fun a same => Nat.le_trans (h.length_le a same) le⟩

theorem Leaves.bind (h : Leaves left n x) (hk : ∀ a, (left a).length ≤ n → Leaves left' m (k a)) :
    Leaves left' m (x >>= k) := by
  rcases x with e | a
  · exact ⟨fun same => h.ends (congrArg _ (Except.error.inj same)), nofun⟩
  · exact hk a (h.length_le a rfl)

/-- A check leaves nothing to count. -/
theorem Leaves.seq {x : Reading Unit} {y : Reading β} (h : Leaves (fun _ => []) 0 x)
    (hy : Leaves left' m y) : Leaves left' m (do x; y) := h.bind fun _ _ => hy

end Reading

open Reading (Leaves leaves_ok leaves_fault)

/-! ## Lines -/

theorem leaves_checkComment (t : Token) : Leaves (fun _ => []) 0 (checkComment t) := by
  unfold checkComment
  split
  · exact leaves_fault _
  · exact leaves_ok (Nat.le_refl _)

theorem leaves_checkNewline (t : Token) : Leaves (fun _ => []) 0 (checkNewline t) := by
  unfold checkNewline
  split
  · exact leaves_fault _
  · exact leaves_ok (Nat.le_refl _)

theorem leaves_lineEnd (ts : List Token) : Leaves id ts.length (lineEnd ts) := by
  induction ts with
  | nil => exact leaves_ok (Nat.le_refl _)
  | cons t ts ih =>
    have later := ih.mono (Nat.le_succ _)
    rw [lineEnd]
    split
    · exact later
    · exact (leaves_checkComment t).seq later
    · exact (leaves_checkNewline t).seq (leaves_ok (Nat.le_succ _))
    · exact leaves_ok (Nat.le_refl _)
    · exact leaves_fault _

theorem leaves_ignoredLine (ts : List Token) : Leaves id ts.length (ignoredLine ts) := by
  induction ts with
  | nil => exact leaves_ok (Nat.le_refl _)
  | cons t ts ih =>
    have later := ih.mono (Nat.le_succ _)
    rw [ignoredLine]
    split
    · exact (leaves_checkComment t).seq ((leaves_lineEnd ts).mono (Nat.le_succ _))
    · exact (leaves_checkNewline t).seq (leaves_ok (Nat.le_succ _))
    · exact leaves_ok (Nat.le_refl _)
    · exact later

/-! ## Keys and words -/

theorem length_path_le (due : Bool) (ts : List Token) : (path due ts).2.length ≤ ts.length := by
  induction ts generalizing due with
  | nil => exact Nat.le_refl _
  | cons t ts ih =>
    rw [path]
    split
    · exact Nat.le_succ_of_le (ih due)
    · exact Nat.le_succ_of_le (ih true)
    · split
      · exact Nat.le_succ_of_le (ih false)
      · exact Nat.le_refl _
    · exact Nat.le_refl _

theorem length_wordTail_le (ts : List Token) : (wordTail ts).2.length ≤ ts.length := by
  fun_induction wordTail ts <;> grind

/-- A path that begins with a key or a point takes it. -/
theorem length_path_cons_le (h : t.kind = .dot ∨ t.kind.spelling?.isSome) :
    (path true (t :: ts)).2.length ≤ ts.length := by
  rw [path]
  split
  · rename_i blank
    simp [blank, TokenKind.spelling?] at h
  · exact length_path_le true ts
  · exact length_path_le false ts
  · rename_i unspelled _ dot
    rcases h with h | h
    · exact absurd h dot
    · simp [unspelled] at h

/-! ## Values -/

/-- No value begins with this token: where one is due, it is missing. -/
def TokenKind.Lacks (k : TokenKind) : Prop := k = .comment ∨ k = .comma ∨ k = .newline ∨ k = .ending

/-- The steps are enough for what is read in values. A value that begins takes its first token. -/
structure Enough (limit fuel : Nat) : Prop where
  value : ∀ {t ts} depth, ¬ t.kind.Lacks → 2 * ts.length + 2 ≤ fuel →
    Leaves Prod.snd ts.length (value limit fuel depth (t :: ts))
  items : ∀ {ts} depth commaDue, 2 * ts.length + 1 ≤ fuel →
    Leaves (·.2.2) ts.length (items limit fuel depth commaDue ts)
  entries : ∀ {ts} depth due, 2 * ts.length + 1 ≤ fuel →
    Leaves (·.2.2) ts.length (entries limit fuel depth due ts)

namespace Enough

theorem value_succ (h : Enough limit fuel) (begins : ¬ t.kind.Lacks)
    (enough : 2 * ts.length + 1 ≤ fuel) :
    Leaves Prod.snd ts.length (Toml.value limit (fuel + 1) depth (t :: ts)) := by
  rw [Toml.value]
  split
  -- A word or a point, with the words behind it.
  · exact leaves_ok (length_wordTail_le ts)
  · exact leaves_ok (length_wordTail_le ts)
  -- The four kinds of strings.
  iterate 4
    · exact leaves_ok (Nat.le_refl _)
  -- An array, and an inline table.
  · split
    · exact leaves_fault _
    · exact (h.items _ _ enough).bind fun _ le => leaves_ok le
  · split
    · exact leaves_fault _
    · exact (h.entries _ _ enough).bind fun _ le => leaves_ok le
  -- The four tokens where a value is missing.
  iterate 4
    · rename_i kind
      exact absurd (by simp [TokenKind.Lacks, kind]) begins
  · exact leaves_fault _

/-- A value takes a token, and what comes after it has enough steps. -/
theorem value_bind (h : Enough limit fuel) (begins : ¬ t.kind.Lacks)
    (enough : 2 * ts.length + 2 ≤ fuel) {left : β → List Token}
    {k : RawValue × List Token → Reading β}
    (later : ∀ item rest, 2 * rest.length + 1 ≤ fuel → Leaves left rest.length (k (item, rest))) :
    Leaves left (ts.length + 1) (Toml.value limit fuel depth (t :: ts) >>= k) :=
  (h.value depth begins enough).bind fun a le =>
    (later a.1 a.2 (by omega)).mono (Nat.le_succ_of_le le)

theorem items_succ (h : Enough limit fuel) {commaDue : Bool}
    (enough : 2 * ts.length + 1 ≤ fuel + 1) :
    Leaves (·.2.2) ts.length (Toml.items limit (fuel + 1) depth commaDue ts) := by
  cases ts with
  | nil => exact leaves_fault _
  | cons t ts =>
    rw [List.length_cons] at enough ⊢
    have later (commaDue : Bool) :
        Leaves (·.2.2) (ts.length + 1) (Toml.items limit fuel depth commaDue ts) :=
      (h.items depth commaDue (by omega)).mono (Nat.le_succ _)
    rw [Toml.items]
    split
    · exact later commaDue
    · exact (leaves_checkNewline t).seq (later commaDue)
    · exact (leaves_checkComment t).seq (later commaDue)
    · exact leaves_ok (Nat.le_succ _)
    · split
      · exact later false
      · exact leaves_fault _
    iterate 3
      · exact leaves_fault _
    · split
      · exact leaves_fault _
      · have begins : ¬ t.kind.Lacks := by
          rintro (k | k | k | k) <;> contradiction
        refine h.value_bind begins (by omega) fun item rest enough => ?_
        exact (h.items depth true enough).bind fun _ le => leaves_ok le

theorem entries_succ (h : Enough limit fuel) {due : Due} (enough : 2 * ts.length + 1 ≤ fuel + 1) :
    Leaves (·.2.2) ts.length (Toml.entries limit (fuel + 1) depth due ts) := by
  cases ts with
  | nil => exact leaves_fault _
  | cons t ts =>
    rw [List.length_cons] at enough ⊢
    have later (due : Due) :
        Leaves (·.2.2) (ts.length + 1) (Toml.entries limit fuel depth due ts) :=
      (h.entries depth due (by omega)).mono (Nat.le_succ _)
    rw [Toml.entries.eq_def]
    dsimp only
    split
    · exact later _
    · exact (leaves_checkNewline t).seq (later _)
    · exact (leaves_checkComment t).seq (later _)
    · exact leaves_ok (Nat.le_succ _)
    · exact leaves_ok (Nat.le_succ _)
    · exact later .key
    · exact later (.value _)
    · exact later (.value _)
    -- Seven tokens that may not stand where they do.
    iterate 7
      · exact leaves_fault _
    -- A key. It is taken with the path that it begins.
    · have begins : t.kind = .dot ∨ t.kind.spelling?.isSome := by
        cases k : t.kind <;> first | contradiction | simp [TokenKind.spelling?]
      have taken : (path true (t :: ts)).2.length ≤ ts.length := length_path_cons_le begins
      exact (h.entries depth _ (by omega)).mono (Nat.le_succ_of_le taken)
    -- A value.
    · have begins : ¬ t.kind.Lacks := by
        rintro (k | k | k | k) <;> contradiction
      refine h.value_bind begins (by omega) fun item rest enough => ?_
      exact (h.entries depth .comma enough).bind fun _ le => leaves_ok le
    · exact leaves_fault _

end Enough

/-- Two steps for each token, and one more inside brackets, are enough for what stands in values. -/
theorem enough (limit fuel : Nat) : Enough limit fuel := by
  -- Each of the three readers calls the others with one step less.
  induction fuel with
  | zero => exact ⟨fun _ _ h => by omega, fun _ _ h => by omega, fun _ _ h => by omega⟩
  | succ fuel ih =>
    exact ⟨fun _ begins h => ih.value_succ begins (by omega), fun _ _ h => ih.items_succ h,
      fun _ _ h => ih.entries_succ h⟩

theorem leaves_value (h : 2 * ts.length ≤ fuel) :
    Leaves Prod.snd ts.length (value limit fuel depth ts) := by
  cases ts with
  | nil =>
    cases fuel <;> exact leaves_fault _
  | cons t ts =>
    rw [List.length_cons] at h
    obtain ⟨fuel, rfl⟩ : ∃ n, fuel = n + 1 := ⟨fuel - 1, by omega⟩
    by_cases lacks : t.kind.Lacks
    · have missing : value limit (fuel + 1) depth (t :: ts) =
          .ok (.scalar (Raw.absentAt t.start), t :: ts) := by
        rcases lacks with k | k | k | k <;> simp only [value, k]
      rw [missing]
      exact leaves_ok (Nat.le_refl _)
    · exact ((enough limit (fuel + 1)).value depth lacks (by omega)).mono (Nat.le_succ _)

/-! ## Statements -/

theorem leaves_headerEnd (ofArray : Bool) (close : Token) (ts : List Token) :
    Leaves Prod.snd ts.length (headerEnd ofArray close ts) := by
  unfold headerEnd
  split
  · split
    · exact leaves_fault _
    · split
      · exact leaves_ok (Nat.le_succ _)
      · exact leaves_fault _
  · exact leaves_ok (Nat.le_refl _)

theorem length_secondBracket_le (ts : List Token) : (secondBracket ts).2.length ≤ ts.length := by
  cases ts with
  | nil => exact Nat.le_refl _
  | cons t ts =>
    rw [secondBracket]
    split
    · exact Nat.le_succ _
    · exact Nat.le_refl _

theorem leaves_header (start : Nat) (ts : List Token) :
    Leaves Prod.snd ts.length (header start ts) := by
  have keys := Nat.le_trans (length_path_le true (secondBracket ts).2) (length_secondBracket_le ts)
  rw [header]
  dsimp only
  split
  · exact leaves_fault _
  · rename_i t rest same
    rw [same, List.length_cons] at keys
    split
    · refine (leaves_headerEnd _ t rest).bind fun a le => (leaves_lineEnd a.2).bind fun _ le' => ?_
      exact leaves_ok (Nat.le_trans (Nat.le_trans le' le) (Nat.le_of_succ_le keys))
    · split
      · exact leaves_fault _
      · refine (leaves_ignoredLine (t :: rest)).bind fun _ le => leaves_ok ?_
        exact Nat.le_trans le keys

/-- An assignment takes the sign between its keys and its value. -/
theorem leaves_assignment (h : 2 * ts.length ≤ fuel + 2) :
    Leaves Prod.snd (ts.length - 1) (assignment limit fuel ts) := by
  have keys := length_path_le true ts
  rw [assignment]
  dsimp only
  split
  · rename_i e rest same
    have blanks : (skipBlanks rest).length ≤ rest.length := (List.dropWhile_suffix _).length_le
    rw [same, List.length_cons] at keys
    split
    · refine (leaves_value (by omega)).bind fun a le => (leaves_lineEnd a.2).bind fun _ le' => ?_
      exact leaves_ok (Nat.le_trans (Nat.le_trans le' (Nat.le_trans le blanks))
        (Nat.le_sub_one_of_lt keys))
    · exact leaves_fault _
  · exact leaves_fault _

/-- **Two steps for each token, and one more, are enough for the statements.** -/
theorem leaves_statementsOf (h : 2 * ts.length < fuel) :
    Leaves (fun _ => []) 0 (statementsOf limit fuel ts) := by
  induction fuel generalizing ts with
  | zero => omega
  | succ fuel ih =>
    cases ts with
    | nil => exact leaves_ok (Nat.le_refl _)
    | cons t ts =>
      rw [List.length_cons] at h
      have later : Leaves (fun _ => []) 0 (statementsOf limit fuel ts) := ih (by omega)
      have more (s : Statement) {rest : List Token} (le : rest.length ≤ ts.length) :
          Leaves (fun _ => []) 0 (do .ok (s :: (← statementsOf limit fuel rest))) :=
        (ih (by omega)).bind fun _ _ => leaves_ok (Nat.le_refl _)
      rw [statementsOf]
      split
      · exact leaves_ok (Nat.le_refl _)
      · exact later
      · exact (leaves_checkNewline t).seq later
      · exact (leaves_checkComment t).seq later
      · exact (leaves_header _ ts).bind fun a le => more a.1 le
      iterate 4
        · exact leaves_fault _
      · exact (leaves_assignment (by rw [List.length_cons]; omega)).bind fun a le => more a.1 le

/-- **The steps never run out**: `statements` tells all that comes of reading the tokens. -/
theorem statementsOf_tokens (text : List Char) :
    statementsOf (lastStop (tokens text)) (3 * (tokens text).length + 1) (tokens text) =
      (statements text).mapError some := by
  have ends : statementsOf (lastStop (tokens text)) (3 * (tokens text).length + 1) (tokens text) ≠
      .error none := (leaves_statementsOf (by omega)).ends
  rw [statements]
  rcases h : statementsOf (lastStop (tokens text)) (3 * (tokens text).length + 1) (tokens text)
    with (_ | offset) | ss
  · exact absurd h ends
  · rfl
  · rfl

end Gatekeeper.Toml
