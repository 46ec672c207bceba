import Gatekeeper.Proofs.Settings.Document
import Gatekeeper.Settings.Step

/-!
# Settings are read back as they were written

`ofFile_toml`: the document that settings are written as gives these settings again, whatever texts
they hold.

The document has two sections of scalars (`sections`), so it is read as their entries; each of these
is of the kind that its key asks for, and no key of the settings is missing.

So a step that writes the settings out and loads them again changes nothing (`Step.run_reload`), and
wherever it is put in a row of steps, the others answer as before (`Step.runAll_insert_reload`).
-/

namespace Gatekeeper.Settings

open Toml (Entries Scalar Section fieldEntries documentText documentEntries)

/-! ## The document as sections -/

/-- The scalars of the section on the directory. -/
def Ldap.fields (s : Ldap) : List (String × Scalar) :=
  [("server_url", .string s.serverUrl), ("bind_dn", .string s.bindDn),
    ("start_tls", .boolean s.startTls), ("timeout_seconds", .natural s.timeoutSeconds.toNat)]

/-- The scalars of the section on logging. -/
def Logging.fields (s : Logging) : List (String × Scalar) :=
  [("level", .string s.level), ("format", .string s.format)]

/-- The sections of the document. -/
def sections (s : Settings) : List Section :=
  [⟨"ldap", s.ldap.fields⟩, ⟨"logging", s.logging.fields⟩]

theorem toml_eq (s : Settings) : s.toml = documentText s.sections := by
  simp [toml, Ldap.toml, Logging.toml, documentText, sections, Toml.documentLines, Section.lines,
    Toml.linesText, Toml.fieldLines, Ldap.fields, Logging.fields, Toml.Line.text, Scalar.text]

theorem sections_plain (s : Settings) : Toml.PlainDocument s.sections := by
  have ldap : Toml.PlainFields s.ldap.fields := by
    refine ⟨?_, show ["server_url", "bind_dn", "start_tls", "timeout_seconds"].Nodup by decide⟩
    simp only [Ldap.fields, List.forall_mem_cons]
    decide
  have logging : Toml.PlainFields s.logging.fields := by
    refine ⟨?_, show ["level", "format"].Nodup by decide⟩
    simp only [Logging.fields, List.forall_mem_cons]
    decide
  refine ⟨?_, show ["ldap", "logging"].Nodup by decide⟩
  simp only [sections, List.forall_mem_cons]
  exact ⟨⟨show Toml.IsBare "ldap" by decide, ldap⟩, ⟨show Toml.IsBare "logging" by decide, logging⟩,
    List.forall_mem_nil _⟩

/-! ## The sections as settings -/

theorem Ldap.misfit?_fields (s : Ldap) (span : Toml.Span) (offset : Nat) :
    misfit? span (.table .explicit (fieldEntries offset s.fields)) = none := by
  refine leastFault?_eq_none_iff.2 ?_
  have fits : uint64Misfit? (.integer s.timeoutSeconds.toNat) = none := by
    rw [uint64Misfit?, if_pos]
    simp only [Bool.and_eq_true, decide_eq_true_eq]
    exact ⟨Int.natCast_nonneg _, Int.ofNat_lt.2 s.timeoutSeconds.toNat_lt⟩
  simp [fields, fieldEntries, fieldMisfit?, Scalar.value, stringMisfit?, booleanMisfit?, fits]

theorem Ldap.ofValue_fields (s : Ldap) (offset : Nat) :
    ofValue (.table .explicit (fieldEntries offset s.fields)) = s := by
  simp [ofValue, ofEntries, fieldOf, Entries.get?, fields, fieldEntries, Scalar.value, string?,
    boolean?, uint64?]

theorem Logging.misfit?_fields (s : Logging) (span : Toml.Span) (offset : Nat) :
    misfit? span (.table .explicit (fieldEntries offset s.fields)) = none := by
  refine leastFault?_eq_none_iff.2 ?_
  simp [fields, fieldEntries, fieldMisfit?, Scalar.value, stringMisfit?]

theorem Logging.ofValue_fields (s : Logging) (offset : Nat) :
    ofValue (.table .explicit (fieldEntries offset s.fields)) = s := by
  simp [ofValue, ofEntries, fieldOf, Entries.get?, fields, fieldEntries, Scalar.value, string?]

/-- The entries of the sections are the settings. -/
theorem ofEntries_sections (s : Settings) (offset : Nat) :
    ofEntries (documentEntries offset s.sections) = .ok s := by
  have fit : leastFault? sectionMisfit? (documentEntries offset s.sections) = none := by
    refine leastFault?_eq_none_iff.2 ?_
    simp [sections, documentEntries, Section.entry, sectionMisfit?, Ldap.misfit?_fields,
      Logging.misfit?_fields]
  rw [ofEntries, fit]
  simp [sections, documentEntries, Section.entry, Entries.get?, Ldap.ofValue_fields,
    Logging.ofValue_fields]

/-! ## The round trip -/

/-- **Settings are read back from the document that they are written as.** -/
theorem ofToml_toml (s : Settings) : ofToml s.toml = .ok s := by
  rw [toml_eq]
  exact (ofToml_eq_ok_iff (Toml.parse_documentText s.sections_plain)).2 (ofEntries_sections s 0)

/-- The same for the bytes of the document as a file. -/
theorem ofFile_toml (s : Settings) : ofFile (.content (Utf8.encode s.toml)) = .ok s := by
  rw [ofFile_encode, ofToml_toml]

/-! ## Steps -/

namespace Step

/-- Settings that are written out and loaded again stay as they were. -/
theorem run_reload (s : Settings) : reload.run s = (.done, s) := by
  rw [run, ofFile_toml]
  rfl

/-- **A reload between two rows of steps** is one more answer, and changes no other. -/
theorem runAll_insert_reload (s : Settings) (before later : List Step) :
    runAll s (before ++ reload :: later) =
      (runAll s (before ++ later)).insertIdx before.length (.done, after s before) := by
  induction before generalizing s with
  | nil =>
    rw [List.nil_append, runAll, run_reload]
    rfl
  | cons step before ih =>
    rw [List.cons_append, List.cons_append, runAll, runAll, ih]
    rfl

end Step

end Gatekeeper.Settings
