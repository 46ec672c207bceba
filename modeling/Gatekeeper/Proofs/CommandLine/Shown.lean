import Gatekeeper.Proofs.CommandLine.BindRun
import Gatekeeper.Proofs.Json.Written
import Gatekeeper.Proofs.Settings.RoundTrip

/-!
# Settings that are shown

`config` always ends well and shows the settings in effect (`run_of_config`): as text their TOML
document, as JSON one value. Either is read back as the same settings (`readsBack_shownSettings`),
the document as a file for them (`shown_settings_read_back`), the value by its members
(`HoldsSettings`).
-/

namespace Gatekeeper.CommandLine

open Settings (Step)

variable {w : Surroundings} {args : List String} {a : Arguments} {s : Settings}

/-- The settings as `config` writes them. -/
def shownSettings (format : OutputFormat) (s : Settings) : String :=
  match format with
  | .text => String.ofList s.toml
  | .json => s!"{s.json.toText}\n"

theorem output_settings (format : OutputFormat) (quiet coloured : Bool) (s : Settings) :
    (Answer.settings s).output format quiet coloured = shownSettings format s := by
  cases format <;> rfl

/-! ## What is read back -/

theorem wellSpelled_settings (s : Settings) : Json.WellSpelled s.json := by
  refine .object (List.forall_mem_cons.2 ⟨.object ?_, List.forall_mem_singleton.2 (.object ?_)⟩)
  · exact List.forall_mem_cons.2 ⟨.string _, List.forall_mem_cons.2 ⟨.string _,
      List.forall_mem_cons.2 ⟨.bool _, List.forall_mem_singleton.2 (Json.wellSpelled_ofNat _)⟩⟩⟩
  · exact List.forall_mem_cons.2 ⟨.string _, List.forall_mem_singleton.2 (.string _)⟩

/-- The document says the six values of the settings, each in its section, and nothing else. -/
def HoldsSettings (doc : Json) (s : Settings) : Prop :=
  ∃ timeout : Json,
    doc = .object [
      ("ldap", .object [
        ("server_url", .string s.ldap.serverUrl),
        ("bind_dn", .string s.ldap.bindDn),
        ("start_tls", .bool s.ldap.startTls),
        ("timeout_seconds", timeout)]),
      ("logging", .object [
        ("level", .string s.logging.level),
        ("format", .string s.logging.format)])] ∧
    timeout.magnitude? = some (.integer s.ldap.timeoutSeconds.toNat)

theorem holdsSettings_json (s : Settings) : HoldsSettings s.json s :=
  ⟨_, rfl, Json.magnitude?_ofNat s.ldap.timeoutSeconds.toNat_lt⟩

/-- The text is read back as the settings: as a file for them, or as a document that says them. -/
def ReadsBack (format : OutputFormat) (text : String) (s : Settings) : Prop :=
  match format with
  | .text => Settings.ofFile (.content (Utf8.encode text.toList)) = .ok s
  | .json => ∃ doc, Json.IsDocument text doc ∧ HoldsSettings doc s

theorem readsBack_shownSettings (format : OutputFormat) (s : Settings) :
    ReadsBack format (shownSettings format s) s := by
  cases format with
  | text =>
    rw [ReadsBack, shownSettings, String.toList_ofList]
    exact Settings.ofFile_toml s
  | json => exact ⟨_, Json.isDocument_toText (wellSpelled_settings s), holdsSettings_json s⟩

/-! ## Runs of `config` -/

/-- A run of `config` shows the settings in effect, quiet or not, and leaves the network alone. -/
theorem run_of_config (h : Arguments.read w.environment args = .ok a) (ht : a.task = .config)
    (hs : a.settings w.environment w.file = .ok s) :
    (run w args).status = 0 ∧ (run w args).output = shownSettings a.output s ∧
      (run w args).network = w.network := by
  rw [run_eq_exit h hs, ht]
  exact ⟨rfl, output_settings .., rfl⟩

/-- **Settings are read back from what shows them.** Their document is a file for them; it is what
`config` writes as text; and settings that are written out and loaded again in the midst of other
steps change no answer of these. -/
theorem shown_settings_read_back (s : Settings) :
    Settings.ofFile (.content (Utf8.encode s.toml)) = .ok s ∧
    (∀ w args a, Arguments.read w.environment args = .ok a → a.task = .config →
      a.output = .text → a.settings w.environment w.file = .ok s →
      (run w args).status = 0 ∧
        Settings.ofFile (.content (Utf8.encode (run w args).output.toList)) = .ok s) ∧
    ∀ before later, Step.runAll s (before ++ .reload :: later) =
      (Step.runAll s (before ++ later)).insertIdx before.length (.done, Step.after s before) := by
  refine ⟨Settings.ofFile_toml s, fun w args a h ht ho hs => ?_, Step.runAll_insert_reload s⟩
  obtain ⟨status, output, -⟩ := run_of_config h ht hs
  refine ⟨status, ?_⟩
  rw [output, ho, shownSettings, String.toList_ofList, Settings.ofFile_toml]

theorem shown_settings_read_back_bare :
    (run (.bare (.answers 0 "" "")) ["config", "--server", "ldap://h"]).status = 0 ∧
    Settings.ofFile (.content (Utf8.encode
        (run (.bare (.answers 0 "" "")) ["config", "--server", "ldap://h"]).output.toList)) =
      .ok { ldap := { serverUrl := "ldap://h" } } :=
  (shown_settings_read_back { ldap := { serverUrl := "ldap://h" } }).2.1 (.bare (.answers 0 "" ""))
    ["config", "--server", "ldap://h"] ⟨.config, none, some "ldap://h", none, .text, false⟩
    rfl rfl rfl rfl

end Gatekeeper.CommandLine
