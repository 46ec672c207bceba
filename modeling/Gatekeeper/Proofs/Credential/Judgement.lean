import Gatekeeper.Credential.Attempt

/-!
# What a verdict says of the texts

The validator in terms of characters. `verdict_eq_allow_iff` says which attempts are allowed, and
`check_toAttempt` and `check_of_rejected` say what `check` makes of an attempt: an allowed one is an
attempt that was cleared (`exists_cleared_of_allow`) and comes back unchanged, any other gives its
verdict. Later modules use these and do not unfold the validator.

The verdict is on the name and the password; the server has no part in it (`verdict_of_server`).

Each verdict has its own exact condition (`verdict_eq_rejectEmptyPassword_iff`,
`verdict_eq_rejectUnsanitizedInput_iff`), the verdict on the password alone agrees with the first of
them (`passwordVerdict_eq_rejectEmptyPassword_iff`), and `judged` puts the three ways to ask the
validator side by side.
-/

namespace Gatekeeper.Credential

/-! ## Texts -/

/-- Some character of the text is no white space. -/
def HasVisible (s : String) : Prop := ∃ c ∈ s.toList, Text.isBlank c = false

theorem isAllBlank_eq_false_iff {s : String} : Text.isAllBlank s = false ↔ HasVisible s := by
  simp [Text.isAllBlank, HasVisible]

/-- What the server may see as a name. -/
structure NameSound (dn : String) : Prop where
  visible : HasVisible dn
  no_control : ∀ c ∈ dn.toList, Text.isControl c = false

/-- What the server may see as a password. -/
structure PasswordSound (p : String) : Prop where
  visible : HasVisible p
  blank_of_control : ∀ c ∈ p.toList, Text.isControl c = true → Text.isBlank c = true

theorem isCleanName_iff {dn : String} : isCleanName dn = true ↔ NameSound dn := by
  rw [isCleanName, Bool.and_eq_true, Bool.not_eq_true', isAllBlank_eq_false_iff]
  constructor
  · rintro ⟨hv, hc⟩
    exact ⟨hv, by simpa using hc⟩
  · rintro ⟨hv, hc⟩
    exact ⟨hv, by simpa using hc⟩

theorem isCleanPassword_iff {p : String} :
    isCleanPassword p = true ↔
      ∀ c ∈ p.toList, Text.isControl c = true → Text.isBlank c = true := by
  simp [isCleanPassword]

/-! ## Verdicts -/

theorem passwordVerdict_eq_allow_iff {p : Option String} :
    passwordVerdict p = .allow ↔ ∃ t, p = some t ∧ HasVisible t := by
  cases p with
  | none => simp [passwordVerdict]
  | some t => simp [passwordVerdict, ← isAllBlank_eq_false_iff]

namespace Attempt

/-- **The allowed attempts**: they have a password, and both texts are sound. -/
theorem verdict_eq_allow_iff {a : Attempt} :
    a.verdict = .allow ↔ ∃ p, a.password = some p ∧ PasswordSound p ∧ NameSound a.bindDn := by
  unfold verdict
  by_cases hp : passwordVerdict a.password = .allow
  · obtain ⟨t, ht, hv⟩ := passwordVerdict_eq_allow_iff.1 hp
    rw [if_neg (by simpa using hp)]
    by_cases hn : isCleanName a.bindDn = true
    · by_cases hc : isCleanPassword t = true
      · have hs : PasswordSound t := ⟨hv, isCleanPassword_iff.1 hc⟩
        simp [ht, hn, hc, hs, isCleanName_iff.1 hn]
      · have hs : ¬ PasswordSound t := fun h => hc (isCleanPassword_iff.2 h.blank_of_control)
        simp [ht, hn, hc, hs]
    · have hs : ¬ NameSound a.bindDn := fun h => hn (isCleanName_iff.2 h)
      simp [hn, hs]
  · have hs : ¬ ∃ p, a.password = some p ∧ PasswordSound p ∧ NameSound a.bindDn := by
      rintro ⟨p, h, hps, -⟩
      exact hp (passwordVerdict_eq_allow_iff.2 ⟨p, h, hps.visible⟩)
    rw [if_pos hp]
    exact iff_of_false hp hs

/-- A password that is rejected alone is rejected as an empty one, whatever the name. -/
theorem verdict_of_passwordVerdict {a : Attempt} (h : passwordVerdict a.password ≠ .allow) :
    a.verdict = .rejectEmptyPassword := by
  have empty : passwordVerdict a.password = .rejectEmptyPassword := by
    revert h
    unfold passwordVerdict
    split
    · split
      · exact fun _ => rfl
      · exact fun h => absurd rfl h
    · exact fun _ => rfl
  rw [verdict, if_pos h, empty]

/-- The server has no part in the verdict. -/
theorem verdict_of_server (server server' dn : String) (p : Option String) :
    verdict ⟨server, dn, p⟩ = verdict ⟨server', dn, p⟩ := rfl

end Attempt

/-! ## Clearance -/

/-- The attempt that was cleared. -/
def Cleared.toAttempt (c : Cleared) : Attempt := ⟨c.server, c.bindDn, some c.password⟩

@[simp] theorem Cleared.verdict_toAttempt (c : Cleared) : c.toAttempt.verdict = .allow := c.allowed

theorem exists_cleared_of_allow {a : Attempt} (h : a.verdict = .allow) :
    ∃ c : Cleared, c.toAttempt = a := by
  obtain ⟨server, dn, password⟩ := a
  obtain ⟨p, rfl, -, -⟩ := Attempt.verdict_eq_allow_iff.1 h
  exact ⟨⟨server, dn, p, h⟩, rfl⟩

theorem check_toAttempt (c : Cleared) : c.toAttempt.check = .ok c := by
  rw [Cleared.toAttempt, Attempt.check, dif_pos c.allowed]

theorem check_of_rejected {a : Attempt} (h : a.verdict ≠ .allow) :
    a.check = .error a.verdict := by
  obtain ⟨server, dn, password⟩ := a
  cases password with
  | none => rfl
  | some p => rw [Attempt.check, dif_neg h]

/-- An attempt is cleared as what it is. -/
theorem check_eq_ok_iff {a : Attempt} {c : Cleared} : a.check = .ok c ↔ c.toAttempt = a := by
  constructor
  · intro h
    by_cases allow : a.verdict = .allow
    · obtain ⟨d, rfl⟩ := exists_cleared_of_allow allow
      rw [check_toAttempt] at h
      rw [Except.ok.inj h]
    · rw [check_of_rejected allow] at h
      cases h
  · rintro rfl
    exact check_toAttempt c

/-! ## The three ways to ask -/

/-- There is no password, or nothing of it can be seen. -/
def IsEmptyPassword (p : Option String) : Prop :=
  ∀ t, p = some t → ∀ c ∈ t.toList, Text.isBlank c = true

theorem not_isEmptyPassword_iff {p : Option String} :
    ¬ IsEmptyPassword p ↔ ∃ t, p = some t ∧ HasVisible t := by
  simp [IsEmptyPassword, HasVisible]

theorem passwordVerdict_eq_allow_iff_not_isEmptyPassword {p : Option String} :
    passwordVerdict p = .allow ↔ ¬ IsEmptyPassword p := by
  rw [passwordVerdict_eq_allow_iff, not_isEmptyPassword_iff]

theorem passwordVerdict_eq_rejectEmptyPassword_iff {p : Option String} :
    passwordVerdict p = .rejectEmptyPassword ↔ IsEmptyPassword p := by
  have two : passwordVerdict p = .rejectEmptyPassword ↔ passwordVerdict p ≠ .allow := by
    unfold passwordVerdict
    split
    · split
      · exact iff_of_true rfl (by decide)
      · exact iff_of_false (by decide) (by decide)
    · exact iff_of_true rfl (by decide)
  rw [two, Ne, passwordVerdict_eq_allow_iff_not_isEmptyPassword, Classical.not_not]

/-- The blanks of ASCII, those that a test on bytes would look for. -/
def asciiBlanks : List Char := ['\t', '\n', '\x0b', '\x0c', '\r', ' ']

theorem isBlank_of_mem_asciiBlanks {c : Char} (h : c ∈ asciiBlanks) : Text.isBlank c = true := by
  simp only [asciiBlanks, List.mem_cons, List.not_mem_nil, or_false] at h
  rcases h with rfl | rfl | rfl | rfl | rfl | rfl <;> rfl

theorem HasVisible.ne_empty {s : String} (h : HasVisible s) : s ≠ "" := by
  rintro rfl
  obtain ⟨c, hc, -⟩ := h
  exact absurd hc List.not_mem_nil

theorem HasVisible.exists_notMem {s : String} (h : HasVisible s) :
    ∃ c ∈ s.toList, c ∉ asciiBlanks := by
  obtain ⟨c, hc, visible⟩ := h
  refine ⟨c, hc, fun blank => ?_⟩
  rw [isBlank_of_mem_asciiBlanks blank] at visible
  cases visible

namespace Attempt

variable {a : Attempt}

/-- **The attempts with an empty password**, whatever the name. -/
theorem verdict_eq_rejectEmptyPassword_iff :
    a.verdict = .rejectEmptyPassword ↔ IsEmptyPassword a.password := by
  rw [← passwordVerdict_eq_rejectEmptyPassword_iff]
  by_cases h : passwordVerdict a.password = .allow
  · -- The name and the characters are looked at, and neither gives this verdict.
    have other : a.verdict ≠ .rejectEmptyPassword := by
      rw [verdict, if_neg (by simpa using h)]
      repeat' split
      all_goals decide
    exact iff_of_false other (by rw [h]; decide)
  · have empty := verdict_of_passwordVerdict h
    rw [verdict, if_pos h] at empty
    exact iff_of_true (verdict_of_passwordVerdict h) empty

/-- **Every other attempt** holds what the server must not see. -/
theorem verdict_eq_rejectUnsanitizedInput_iff :
    a.verdict = .rejectUnsanitizedInput ↔ ¬ IsEmptyPassword a.password ∧
      ¬ ∃ p, a.password = some p ∧ PasswordSound p ∧ NameSound a.bindDn := by
  rw [← verdict_eq_rejectEmptyPassword_iff, ← verdict_eq_allow_iff]
  cases a.verdict with
  | allow => exact iff_of_false (by decide) fun h => h.2 rfl
  | rejectEmptyPassword => exact iff_of_false (by decide) fun h => h.1 rfl
  | rejectUnsanitizedInput => exact iff_of_true rfl ⟨by decide, by decide⟩

end Attempt

/-- What the three ways to ask the validator say of an attempt. -/
structure Judged (a : Attempt) : Prop where
  empty_iff : a.verdict = .rejectEmptyPassword ↔ IsEmptyPassword a.password
  allow_iff : a.verdict = .allow ↔
    ∃ p, a.password = some p ∧ PasswordSound p ∧ NameSound a.bindDn
  unsanitized_iff : a.verdict = .rejectUnsanitizedInput ↔ ¬ IsEmptyPassword a.password ∧
    ¬ ∃ p, a.password = some p ∧ PasswordSound p ∧ NameSound a.bindDn
  /-- The password alone is judged as in the first case. -/
  alone_empty_iff : passwordVerdict a.password = .rejectEmptyPassword ↔ IsEmptyPassword a.password
  alone_allow_iff : passwordVerdict a.password = .allow ↔ ¬ IsEmptyPassword a.password
  /-- What is allowed alone is no empty text and no text of ASCII blanks. -/
  alone_visible : passwordVerdict a.password = .allow →
    ∃ p, a.password = some p ∧ p ≠ "" ∧ ∃ c ∈ p.toList, c ∉ asciiBlanks
  /-- What is cleared is the attempt itself. -/
  cleared_iff : ∀ c, a.check = .ok c ↔ a.verdict = .allow ∧
    c.server = a.server ∧ c.bindDn = a.bindDn ∧ some c.password = a.password
  cleared : a.verdict = .allow → ∃ c, a.check = .ok c
  rejected : a.verdict ≠ .allow → a.check = .error a.verdict

/-- **The exact verdict of the validator** on every attempt. -/
theorem judged (a : Attempt) : Judged a where
  empty_iff := Attempt.verdict_eq_rejectEmptyPassword_iff
  allow_iff := Attempt.verdict_eq_allow_iff
  unsanitized_iff := Attempt.verdict_eq_rejectUnsanitizedInput_iff
  alone_empty_iff := passwordVerdict_eq_rejectEmptyPassword_iff
  alone_allow_iff := passwordVerdict_eq_allow_iff_not_isEmptyPassword
  alone_visible h := by
    obtain ⟨p, password, visible⟩ := passwordVerdict_eq_allow_iff.1 h
    exact ⟨p, password, visible.ne_empty, visible.exists_notMem⟩
  cleared_iff c := by
    rw [check_eq_ok_iff]
    constructor
    · rintro rfl
      exact ⟨c.allowed, rfl, rfl, rfl⟩
    · rintro ⟨-, server, name, password⟩
      obtain ⟨s, dn, p⟩ := a
      simp only at server name password
      rw [Cleared.toAttempt, server, name, password]
  cleared h := by
    obtain ⟨c, same⟩ := exists_cleared_of_allow h
    exact ⟨c, check_eq_ok_iff.2 same⟩
  rejected := check_of_rejected

end Gatekeeper.Credential
