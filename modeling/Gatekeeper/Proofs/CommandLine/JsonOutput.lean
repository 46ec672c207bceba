import Gatekeeper.Proofs.CommandLine.Answer
import Gatekeeper.Proofs.CommandLine.Shown

/-!
# Answers as JSON

As JSON an answer is one document, and what it is read as is what the answer was made of: the
settings in effect (`HoldsSettings`), the bind and how it ended (`HoldsBind`), or the verdict
(`HoldsVerdict`). No text that stands in it can make it say anything else, because any text is
spelled by its string (`isDocument_output`).

What a document says more than once it says alike, and the status of the process says the same
(`json_output_is_faithful`).
-/

namespace Gatekeeper.CommandLine

open Credential (Attempt Verdict)
open Json (IsDocument WellSpelled)

variable {w : Surroundings} {args : List String} {a : Arguments} {c : Credentials} {s : Settings}
  {p : Option String} {answer : Answer}

/-! ## One document -/

theorem wellSpelled_answer (answer : Answer) : WellSpelled answer.json := by
  cases answer with
  | judged v =>
    exact .object (List.forall_mem_cons.2 ⟨.string _, List.forall_mem_cons.2 ⟨.bool _,
      List.forall_mem_singleton.2 (.string _)⟩⟩)
  | bind address name outcome =>
    refine .object (List.forall_mem_append.2 ⟨?_, ?_⟩)
    · exact List.forall_mem_cons.2 ⟨.string _, List.forall_mem_cons.2 ⟨.string _,
        List.forall_mem_singleton.2 (.bool _)⟩⟩
    · intro m hm
      obtain ⟨v, -, rfl⟩ := Option.map_eq_some_iff.1 (Option.mem_toList.1 hm)
      exact .string _
  | settings s => exact wellSpelled_settings s

/-- **An answer as JSON is one document**, quiet or not. -/
theorem isDocument_output (answer : Answer) (quiet coloured : Bool) :
    IsDocument (answer.output .json quiet coloured) answer.json :=
  Json.isDocument_toText (wellSpelled_answer answer)

theorem isDocument_of_ends {status : UInt8} (h : Ends w args a s status answer)
    (ho : a.output = .json) : IsDocument (run w args).output answer.json := by
  rw [h.output, ho]
  exact isDocument_output ..

/-! ## What the documents say -/

/-- The document of a bind, together with the status of the process. -/
structure HoldsBind (doc : Json) (status : UInt8) (address name : String) (v : Verdict) : Prop where
  server : doc.member? "server" = some (.string address)
  /-- The name is the same text, whatever stands in it. -/
  bindDn : doc.member? "bind_dn" = some (.string name)
  bound_iff_missing : doc.member? "bound" = some (.bool true) ↔ doc.member? "rejected" = none
  missing_iff_status : doc.member? "rejected" = none ↔ status = 0
  /-- Otherwise the attempt was rejected, and this is why. -/
  otherwise : status ≠ 0 → status = 2 ∧ v ≠ .allow ∧ doc.member? "bound" = some (.bool false) ∧
    doc.member? "rejected" = some (.string v.name)
  /-- There is nothing else in it. -/
  names : doc.names =
    ["server", "bind_dn", "bound"] ++ if status = 0 then [] else ["rejected"]

theorem holdsBind_json (address name : String) (v : Verdict) :
    HoldsBind (Answer.bind address name (outcomeOf v)).json
      (Answer.bind address name (outcomeOf v)).status address name v := by
  by_cases allowed : v = .allow
  · subst allowed
    exact ⟨rfl, rfl, iff_of_true rfl rfl, iff_of_true rfl rfl, fun h => absurd rfl h, rfl⟩
  · rw [outcomeOf_of_ne allowed, status_skipped]
    have bound : (Answer.bind address name (.skipped v)).json.member? "bound" =
        some (.bool false) := rfl
    have rejected : (Answer.bind address name (.skipped v)).json.member? "rejected" =
        some (.string v.name) := rfl
    refine ⟨rfl, rfl, ?_, ?_, fun _ => ⟨rfl, allowed, bound, rejected⟩, rfl⟩
    · rw [bound, rejected]
      exact iff_of_false (by simp) (by simp)
    · rw [rejected]
      exact iff_of_false (by simp) (by decide)

/-- The document of a verdict, together with the status of the process. -/
structure HoldsVerdict (doc : Json) (status : UInt8) (v : Verdict) : Prop where
  result : doc.member? "result" = some (.string v.name)
  allowed_iff_result : doc.member? "allowed" = some (.bool true) ↔
    doc.member? "result" = some (.string "allow")
  result_iff_status : doc.member? "result" = some (.string "allow") ↔ status = 0
  otherwise : status ≠ 0 → status = 2 ∧ doc.member? "allowed" = some (.bool false)
  names : doc.names = ["result", "allowed", "reason"]

theorem holdsVerdict_json (v : Verdict) :
    HoldsVerdict (Answer.judged v).json (Answer.judged v).status v := by
  by_cases allowed : v = .allow
  · subst allowed
    exact ⟨rfl, iff_of_true rfl rfl, iff_of_true rfl rfl, fun h => absurd rfl h, rfl⟩
  · have status := status_judged_eq_two_iff.2 allowed
    have other : v.name ≠ Verdict.allow.name := fun same => allowed (Verdict.eq_of_name_eq same)
    have result : (Answer.judged v).json.member? "result" = some (.string v.name) := rfl
    have notAllowed : (Answer.judged v).json.member? "allowed" = some (.bool false) := by
      change some (Json.bool v.isAllowed) = _
      rw [Verdict.isAllowed, decide_eq_false allowed]
    have notAllow : (Answer.judged v).json.member? "result" ≠ some (.string "allow") := by
      rw [result]
      exact fun same => other (Json.string.inj (Option.some.inj same))
    refine ⟨result, iff_of_false ?_ notAllow, iff_of_false notAllow ?_,
      fun _ => ⟨status, notAllowed⟩, rfl⟩
    · rw [notAllowed]
      simp
    · rw [status]
      decide

/-! ## Runs -/

/-- A run of `config` shows some settings in a format. -/
structure Shows (w : Surroundings) (args : List String) (a : Arguments) (format : OutputFormat)
    (s : Settings) : Prop where
  read : Arguments.read w.environment args = .ok a
  task : a.task = .config
  format : a.output = format
  settings : a.settings w.environment w.file = .ok s

/-- Surroundings with a file of settings, and nothing else. -/
def Surroundings.holding (s : Settings) : Surroundings where
  lookup _ := none
  file path := if path = "settings" then .content (Utf8.encode s.toml)
    else .unreadable SystemError.notFound
  input := []
  network := ⟨none, none⟩

/-- Any settings are shown by some run: they can stand in a file. -/
theorem exists_shows (s : Settings) : ∃ w args a, Shows w args a .json s := by
  refine ⟨.holding s, ["config", "--config", "settings", "--output", "json"],
    ⟨.config, some "settings", none, none, .json, false⟩, rfl, rfl, rfl, ?_⟩
  have loaded : Settings.ofFile ((Surroundings.holding s).file "settings") = .ok s :=
    Settings.ofFile_toml s
  rw [Arguments.settings]
  simp only [loaded]
  rfl

/-- What the output of a run of `check` says, when it says anything. -/
structure TellsVerdict (w : Surroundings) (args : List String) (a : Arguments) (c : Credentials)
    (s : Settings) (p : Option String) (doc : Json) : Prop where
  settings : a.settings w.environment w.file = .ok s
  password : c.password? w.input = .ok p
  document : IsDocument (run w args).output doc
  content : HoldsVerdict doc (run w args).status (checkVerdict s p c.bindDn)

/-- What the output of a run of `bind` says. -/
structure TellsBind (w : Surroundings) (args : List String) (a : Arguments) (c : Credentials)
    (s : Settings) (p : Option String) (address : String) (doc : Json) : Prop where
  ready : Ready w a c s p
  server : s.ldap.address = .ok address
  document : IsDocument (run w args).output doc
  content : HoldsBind doc (run w args).status address (c.name s)
    (Attempt.verdict ⟨address, c.name s, p⟩)

theorem exists_tellsBind (h : Arguments.read w.environment args = .ok a) (ht : a.task = .bind c)
    (ho : a.output = .json) (answered : (run w args).status ≠ failedStatus) :
    ∃ s p address doc, TellsBind w args a c s p address doc := by
  obtain ⟨s, answer, hs, ends⟩ := ends_of_status_ne h answered
  obtain ⟨p, address, hp, hv, ha, rfl⟩ := answer_bind (ht ▸ ends.session)
  refine ⟨s, p, address, _, ⟨hs, hp, hv⟩, ha, isDocument_of_ends ends ho, ?_⟩
  rw [ends.status, verdict_eq c s p address]
  exact holdsBind_json ..

/-- A run of `check` that ends with an answer tells its verdict; one that fails writes nothing. -/
theorem exists_tellsVerdict (h : Arguments.read w.environment args = .ok a) (ht : a.task = .check c)
    (ho : a.output = .json) :
    ((run w args).status = failedStatus ∧ (run w args).output = "") ∨
      ∃ s p doc, TellsVerdict w args a c s p doc := by
  rcases run_cases h with failed | ⟨s, answer, hs, ends⟩
  · exact .inl failed
  · obtain ⟨p, hp, rfl⟩ := answer_check (ht ▸ ends.session)
    refine .inr ⟨s, p, _, hs, hp, isDocument_of_ends ends ho, ?_⟩
    rw [ends.status]
    exact holdsVerdict_json _

/-- A text without a character is no document. -/
theorem not_isDocument_empty (doc : Json) : ¬ IsDocument "" doc :=
  fun h => absurd h.spelled.opens.length_pos (by decide)

/-- **JSON output is faithful.** -/
theorem json_output_is_faithful :
    (∀ s : Settings, (∃ w args a, Shows w args a .json s) ∧ ∃ doc, HoldsSettings doc s ∧
      (∀ w args a, Shows w args a .json s →
        (run w args).status = 0 ∧ IsDocument (run w args).output doc) ∧
      ∀ w args a, Shows w args a .text s →
        Settings.ofFile (.content (Utf8.encode (run w args).output.toList)) = .ok s) ∧
    (∀ w args a c, Arguments.read w.environment args = .ok a → a.task = .bind c →
      a.output = .json → (run w args).status ≠ failedStatus →
        ∃ s p address doc, TellsBind w args a c s p address doc) ∧
    ∀ w args a c, Arguments.read w.environment args = .ok a → a.task = .check c →
      a.output = .json →
        ((run w args).status = failedStatus ∧ ∀ doc, ¬ IsDocument (run w args).output doc) ∨
        ∃ s p doc, TellsVerdict w args a c s p doc := by
  refine ⟨fun s => ⟨exists_shows s, s.json, holdsSettings_json s, ?_, ?_⟩,
    fun w args a c h ht ho => exists_tellsBind h ht ho, fun w args a c h ht ho => ?_⟩
  · rintro w args a ⟨h, ht, ho, hs⟩
    obtain ⟨status, output, -⟩ := run_of_config h ht hs
    refine ⟨status, ?_⟩
    rw [output, ho]
    exact Json.isDocument_toText (wellSpelled_settings s)
  · rintro w args a ⟨h, ht, ho, hs⟩
    obtain ⟨-, output, -⟩ := run_of_config h ht hs
    rw [output, ho, shownSettings, String.toList_ofList, Settings.ofFile_toml]
  · rcases exists_tellsVerdict h ht ho with ⟨failed, empty⟩ | tells
    · exact .inl ⟨failed, fun doc => empty ▸ not_isDocument_empty doc⟩
    · exact .inr tells

/-- A command line for a bind under a name, with a visible password. -/
def namedBind (name : String) : List String :=
  ["bind", "--server", "ldap://h", "--bind-dn", name, "--password", "pw", "--output", "json"]

/-- What it is read as. -/
def namedBindArguments (name : String) : Arguments :=
  { bindArguments "ldap://h" with
    task := .bind ⟨some "pw", false, some name⟩
    output := .json }

/-- A name with a quote, a backslash, control characters and a letter outside ASCII. -/
def oddName : String := "cn=\x1b\"\n\\é"

theorem json_output_is_faithful_bare :
    (∃ doc, HoldsSettings doc { ldap := { serverUrl := "ldap://h" } } ∧
      IsDocument (run (.bare (.answers 0 "" ""))
        ["config", "--server", "ldap://h", "--output", "json"]).output doc) ∧
    (∃ s p address doc, TellsBind (.bare (.answers 0 "" "")) (namedBind "cn=a")
      (namedBindArguments "cn=a") ⟨some "pw", false, some "cn=a"⟩ s p address doc) ∧
    (∃ s p address doc, TellsBind (.bare (.answers 0 "" "")) (namedBind oddName)
      (namedBindArguments oddName) ⟨some "pw", false, some oddName⟩ s p address doc) ∧
    ∃ s p doc, TellsVerdict (.bare (.answers 0 "" "")) (blankCheck ++ ["--output", "json"])
      { blankCheckArguments with output := .json } ⟨some " ", false, some "cn=a"⟩ s p doc := by
  obtain ⟨settings, bind, check⟩ := json_output_is_faithful
  obtain ⟨-, doc, holds, shown, -⟩ := settings { ldap := { serverUrl := "ldap://h" } }
  have document := (shown (.bare (.answers 0 "" ""))
    ["config", "--server", "ldap://h", "--output", "json"]
    ⟨.config, none, some "ldap://h", none, .json, false⟩ ⟨rfl, rfl, rfl, rfl⟩).2
  have checked := (check (.bare (.answers 0 "" "")) (blankCheck ++ ["--output", "json"])
    { blankCheckArguments with output := .json } _ rfl rfl rfl).resolve_left
      fun failed => absurd failed.1 (by decide)
  exact ⟨⟨doc, holds, document⟩, bind _ _ _ _ rfl rfl rfl (by decide),
    bind _ _ _ _ rfl rfl rfl (by decide), checked⟩

end Gatekeeper.CommandLine
