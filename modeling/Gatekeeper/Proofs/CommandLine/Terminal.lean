import Gatekeeper.Proofs.CommandLine.Answer
import Gatekeeper.Proofs.Url.Visible

/-!
# What reaches a terminal

Without colours the answer of `check` or `bind` as text is at most two lines, and in these lines
there is no control character (`Harmless`), whatever stands in the server URL, the name and the
password: what is printed is fixed, except where a bind succeeded. There the name has passed the
validator, and the address is in visible characters (`visible_address`).
-/

namespace Gatekeeper.CommandLine

open Credential (Verdict)
open Url (IsVisibleAscii)

variable {w : Surroundings} {args : List String} {a : Arguments} {c : Credentials} {s : Settings}
  {p : Option String} {address : String}

/-! ## Lines without control characters -/

/-- Nothing in the text is a control character. -/
def IsClean (t : List Char) : Prop := ∀ c ∈ t, Text.isControl c = false

instance (t : List Char) : Decidable (IsClean t) :=
  decidable_of_iff (t.all (!Text.isControl ·) = true) (by simp [IsClean])

/-- The text is at most two lines, each with its end, and without any other control character. -/
def Harmless (output : String) : Prop :=
  ∃ lines : List (List Char), output.toList = lines.flatMap (· ++ ['\n']) ∧ lines.length ≤ 2 ∧
    ∀ t ∈ lines, IsClean t

theorem harmless_empty : Harmless "" :=
  ⟨[], rfl, by decide, fun _ ht => absurd ht List.not_mem_nil⟩

theorem harmless_of_line {output : String} {t : List Char} (line : output.toList = t ++ ['\n'])
    (clean : IsClean t) : Harmless output := by
  refine ⟨[t], ?_, Nat.le_succ 1, List.forall_mem_singleton.2 clean⟩
  rw [List.flatMap_singleton]
  exact line

theorem IsClean.append {t u : List Char} (ht : IsClean t) (hu : IsClean u) : IsClean (t ++ u) := by
  intro c hc
  rcases List.mem_append.1 hc with hc | hc
  · exact ht c hc
  · exact hu c hc

theorem isClean_of_visible {t : List Char} (h : ∀ c ∈ t, IsVisibleAscii c) : IsClean t := by
  intro c hc
  obtain ⟨low, high⟩ := h c hc
  simp only [Text.isControl, Bool.or_eq_false_iff, Bool.and_eq_false_iff, decide_eq_false_iff_not]
  omega

/-! ## The address -/

/-- **The address in effect is in visible characters**, whatever the server URL is. -/
theorem visible_address {l : Settings.Ldap} (h : l.address = .ok address) :
    ∀ c ∈ address.toList, IsVisibleAscii c := by
  obtain ⟨u, host, hu, hh, rfl⟩ := Settings.Ldap.address_eq_ok_iff.1 h
  have isHost := (Directory.isHostPort_of_url hu).host host hh
  intro c hc
  rw [Directory.toList_hostPort, List.mem_append, List.mem_cons] at hc
  rcases hc with hc | rfl | hc
  · exact isHost.visible c hc
  · decide
  · exact Url.isVisibleAscii_of_isDigit (Nat.isDigit_of_mem_toDigits (by decide) (by decide) hc)

/-! ## Answers -/

/-- The line on a verdict, without its end. -/
def verdictWords (v : Verdict) : List Char := v.name.toList ++ ": ".toList ++ v.description.toList

theorem toList_verdictLine (v : Verdict) :
    (Answer.verdictLine false v).toList = verdictWords v ++ ['\n'] := by
  change (v.name ++ ": " ++ v.description ++ "\n").toList = _
  simp only [verdictWords, String.toList_append]
  rfl

theorem isClean_verdictWords (v : Verdict) : IsClean (verdictWords v) := by
  have name : IsClean v.name.toList := by cases v <;> decide
  have between : IsClean ": ".toList := by decide
  have description : IsClean v.description.toList := by cases v <;> decide
  exact (name.append between).append description

theorem harmless_judged (quiet : Bool) (v : Verdict) :
    Harmless ((Answer.judged v).text quiet false) := by
  cases quiet with
  | true => exact harmless_empty
  | false => exact harmless_of_line (toList_verdictLine v) (isClean_verdictWords v)

/-- A skipped bind is told in fixed words: neither the address nor the name is among them. -/
theorem harmless_skipped (quiet : Bool) (address name : String) (v : Verdict) :
    Harmless ((Answer.bind address name (.skipped v)).text quiet false) := by
  cases quiet with
  | true => exact harmless_empty
  | false =>
    have notice : IsClean "Bind skipped".toList := by decide
    refine ⟨[verdictWords v, "Bind skipped".toList], ?_, Nat.le_refl 2,
      List.forall_mem_cons.2 ⟨isClean_verdictWords v, List.forall_mem_singleton.2 notice⟩⟩
    change (Answer.verdictLine false v ++ "Bind skipped\n").toList = _
    rw [String.toList_append, toList_verdictLine]
    rfl

/-- What is printed of a bind that succeeded. -/
def boundLine (address name : String) : String := s!"Bound to {address} as {name}\n"

theorem toList_boundLine (address name : String) :
    (boundLine address name).toList =
      ("Bound to ".toList ++ address.toList ++ " as ".toList ++ name.toList) ++ ['\n'] := by
  change ("Bound to " ++ address ++ " as " ++ name ++ "\n").toList = _
  simp only [String.toList_append]
  rfl

theorem harmless_boundLine {name : String} (ha : ∀ c ∈ address.toList, IsVisibleAscii c)
    (hn : IsClean name.toList) : Harmless (boundLine address name) := by
  have front : IsClean "Bound to ".toList := by decide
  have between : IsClean " as ".toList := by decide
  exact harmless_of_line (toList_boundLine address name)
    (((front.append (isClean_of_visible ha)).append between).append hn)

theorem text_bound (quiet : Bool) (address name : String) :
    (Answer.bind address name .bound).text quiet false =
      if quiet then "" else boundLine address name := by
  cases quiet <;> rfl

/-! ## Runs -/

/-- What a run prints of a bind that succeeded. -/
structure PrintsBound (w : Surroundings) (args : List String) (a : Arguments) (c : Credentials)
    (s : Settings) (p : Option String) (address : String) : Prop where
  ready : Ready w a c s p
  /-- The name has passed the validator, which looks for control characters. -/
  allowed : c.verdict s p = .allow
  name : IsClean (c.name s).toList
  server : s.ldap.address = .ok address
  visible : ∀ ch ∈ address.toList, IsVisibleAscii ch
  output : (run w args).output = if a.quiet then "" else boundLine address (c.name s)

theorem isClean_name (allowed : c.verdict s p = .allow) : IsClean (c.name s).toList := by
  obtain ⟨-, -, -, sound⟩ := Credential.Attempt.verdict_eq_allow_iff.1 allowed
  exact sound.no_control

/-- A bind that ends with an answer was rejected, or it succeeded and is told with its name. -/
theorem harmless_or_printsBound (h : Arguments.read w.environment args = .ok a)
    (ht : a.task = .bind c) (ho : a.output = .text) (plain : isColoured w.environment = false)
    (answered : (run w args).status ≠ failedStatus) :
    (Harmless (run w args).output ∧ (run w args).status ≠ 0) ∨
      ∃ s p address, PrintsBound w args a c s p address := by
  obtain ⟨s, answer, hs, ends⟩ := ends_of_status_ne h answered
  obtain ⟨p, address, hp, hv, ha, rfl⟩ := answer_bind (ht ▸ ends.session)
  have output := ends.output
  rw [ho, plain] at output
  by_cases allowed : c.verdict s p = .allow
  · rw [allowed] at output
    exact .inr ⟨s, p, address, ⟨hs, hp, hv⟩, allowed, isClean_name allowed, ha, visible_address ha,
      output.trans (text_bound a.quiet address (c.name s))⟩
  · have status := ends.status
    rw [outcomeOf_of_ne allowed] at output status
    rw [output, status, status_skipped]
    exact .inl ⟨harmless_skipped a.quiet address (c.name s) (c.verdict s p), by decide⟩

theorem PrintsBound.harmless (h : PrintsBound w args a c s p address) :
    Harmless (run w args).output := by
  rw [h.output]
  split
  · exact harmless_empty
  · exact harmless_boundLine h.visible h.name

/-- **Nothing that was given reaches a terminal as a control character**: for every run of `check`
or `bind` that writes text without colours. -/
theorem text_output_is_harmless (h : Arguments.read w.environment args = .ok a)
    (ht : a.task ≠ .config) (ho : a.output = .text) (plain : isColoured w.environment = false) :
    Harmless (run w args).output ∧
    ∀ c, a.task = .bind c → (run w args).status = 0 →
      ∃ s p address, PrintsBound w args a c s p address := by
  rcases run_cases h with ⟨failed, empty⟩ | ⟨s, answer, -, ends⟩
  · rw [empty, failed]
    exact ⟨harmless_empty, fun _ _ zero => absurd zero (by decide)⟩
  · have answered : (run w args).status ≠ failedStatus := ends.status ▸ status_answer_ne answer
    cases hk : a.task with
    | check c =>
      obtain ⟨p, -, rfl⟩ := answer_check (hk ▸ ends.session)
      refine ⟨?_, fun _ other => Task.noConfusion other⟩
      rw [ends.output, ho, plain]
      exact harmless_judged ..
    | bind c =>
      rcases harmless_or_printsBound h hk ho plain answered with ⟨harmless, status⟩ | bound
      · exact ⟨harmless, fun _ _ zero => absurd zero status⟩
      · obtain ⟨s, p, address, prints⟩ := bound
        refine ⟨prints.harmless, fun d same _ => ?_⟩
        obtain rfl := Task.bind.inj same
        exact ⟨s, p, address, prints⟩
    | config => exact absurd hk ht

theorem text_output_is_harmless_bare :
    Harmless (run (.bare (.answers 0 "" "")) (bindLine "ldap://h")).output ∧
    ∃ s p address, PrintsBound (.bare (.answers 0 "" "")) (bindLine "ldap://h")
      (bindArguments "ldap://h") ⟨some "pw", false, some "cn=a"⟩ s p address := by
  obtain ⟨harmless, bound⟩ := @text_output_is_harmless (.bare (.answers 0 "" ""))
    (bindLine "ldap://h") (bindArguments "ldap://h") rfl (by decide) rfl rfl
  exact ⟨harmless, bound _ rfl (by decide)⟩

end Gatekeeper.CommandLine
