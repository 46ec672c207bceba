import Gatekeeper.Proofs.Settings.Kind
import Gatekeeper.Proofs.Text.Utf8
import Gatekeeper.Proofs.Toml.Document
import Gatekeeper.Settings.File

/-!
# What a document says of the settings

A document gives a setting a value under a key of the table `ldap` or `logging`. It `Gives` some
settings when each field of them is that value, or the default where there is none.

The settings of a document whose sections are tables are those that it gives, and there are such
when it is well typed and every number in it is one that some type holds (`ofEntries_eq_ok_iff`).

`loaded_document` says this of a file. What a document has under other keys changes nothing, as long
as its numbers can be read; one that cannot makes the file fail, whatever its key
(`huge_number_refused`).
-/

namespace Gatekeeper.Settings

open Toml (Entries Value)

variable {es : Entries} {key : String} {v : Value} {s : Settings}

/-! ## Fields -/

/-- The field is the value that is found, or the default where none is. -/
def Takes {α : Type} (found : Option Value) (make : α → Value) (default field : α) : Prop :=
  found = some (make field) ∨ found = none ∧ field = default

section Takes

variable {α : Type} {found : Option Value} {make : α → Value} {default field : α}

theorem Takes.eq (inj : ∀ a b, make a = make b → a = b) (h : Takes found make default field)
    {other : α} (h' : Takes found make default other) : field = other := by
  rcases h with rfl | ⟨rfl, rfl⟩
  · rcases h' with same | ⟨absent, -⟩
    · exact inj _ _ (Option.some.inj same)
    · cases absent
  · rcases h' with same | ⟨-, rfl⟩
    · cases same
    · rfl

theorem Takes.eq_of_found (h : Takes found make default field) (v : Value)
    (hv : found = some v) : v = make field := by
  rcases h with same | ⟨absent, -⟩
  · exact Option.some.inj (hv.symm.trans same)
  · cases hv.symm.trans absent

theorem takes_fieldOf {read? : Value → Option α}
    (read : ∀ v, es.at? key = some v → ∃ a, v = make a ∧ read? v = some a) :
    Takes (es.at? key) make default (fieldOf es key read? default) := by
  have value : fieldOf es key read? default = ((es.at? key).bind read?).getD default := by
    rw [fieldOf, Entries.at?]
    cases es.get? key <;> rfl
  rw [value]
  cases found : es.at? key with
  | none => exact .inr ⟨rfl, rfl⟩
  | some v =>
    obtain ⟨a, rfl, taken⟩ := read v found
    rw [Option.bind_some, taken]
    exact .inl rfl

end Takes

/-- The value of a number of 64 bits. -/
def naturalValue (n : UInt64) : Value := .integer n.toNat

theorem naturalValue_inj {m n : UInt64} (h : naturalValue m = naturalValue n) : m = n :=
  UInt64.toNat_inj.1 (Int.ofNat_inj.1 (Value.integer.inj h))

theorem takes_string {default : String} (h : ∀ v, es.at? key = some v → Kind.string.Of v) :
    Takes (es.at? key) .string default (fieldOf es key string? default) :=
  takes_fieldOf fun v found => by
    obtain ⟨t, rfl⟩ := h v found
    exact ⟨t, rfl, rfl⟩

theorem takes_boolean {default : Bool} (h : ∀ v, es.at? key = some v → Kind.boolean.Of v) :
    Takes (es.at? key) .boolean default (fieldOf es key boolean? default) :=
  takes_fieldOf fun v found => by
    obtain ⟨b, rfl⟩ := h v found
    exact ⟨b, rfl, rfl⟩

theorem takes_uint64 {default : UInt64} (h : ∀ v, es.at? key = some v → Kind.uint64.Of v) :
    Takes (es.at? key) naturalValue default (fieldOf es key uint64? default) :=
  takes_fieldOf fun v found => by
    obtain ⟨n, rfl, low, high⟩ := h v found
    refine ⟨UInt64.ofNat n.toNat, ?_, rfl⟩
    have small : n.toNat < UInt64.size := by
      rw [UInt64.size]
      omega
    rw [naturalValue, UInt64.toNat_ofNat_of_lt' small, Int.toNat_of_nonneg low]

theorem of_naturalValue (n : UInt64) : Kind.uint64.Of (naturalValue n) :=
  ⟨n.toNat, rfl, Int.natCast_nonneg _, Int.ofNat_lt.2 n.toNat_lt⟩

namespace Ldap

/-- Each field is the value of its key, or its default. -/
structure Gives (es : Entries) (s : Ldap) : Prop where
  serverUrl : Takes (es.at? "server_url") .string "ldap://localhost:389" s.serverUrl
  bindDn : Takes (es.at? "bind_dn") .string "" s.bindDn
  startTls : Takes (es.at? "start_tls") .boolean false s.startTls
  timeoutSeconds : Takes (es.at? "timeout_seconds") naturalValue 10 s.timeoutSeconds

theorem gives_of_typed (h : Typed known es) : Gives es (ofEntries es) := by
  simp only [Typed, known, List.forall_mem_cons] at h
  obtain ⟨url, dn, tls, timeout, -⟩ := h
  exact ⟨takes_string url, takes_string dn, takes_boolean tls, takes_uint64 timeout⟩

theorem Gives.typed {s : Ldap} (h : Gives es s) : Typed known es := by
  simp only [Typed, known, List.forall_mem_cons]
  refine ⟨?_, ?_, ?_, ?_, List.forall_mem_nil _⟩
  · exact fun v found => ⟨_, h.serverUrl.eq_of_found v found⟩
  · exact fun v found => ⟨_, h.bindDn.eq_of_found v found⟩
  · exact fun v found => ⟨_, h.startTls.eq_of_found v found⟩
  · exact fun v found => h.timeoutSeconds.eq_of_found v found ▸ of_naturalValue _

theorem Gives.eq {s s' : Ldap} (h : Gives es s) (h' : Gives es s') : s = s' := by
  have url := h.serverUrl.eq (fun _ _ => Value.string.inj) h'.serverUrl
  have dn := h.bindDn.eq (fun _ _ => Value.string.inj) h'.bindDn
  have tls := h.startTls.eq (fun _ _ => Value.boolean.inj) h'.startTls
  have timeout := h.timeoutSeconds.eq (fun _ _ => naturalValue_inj) h'.timeoutSeconds
  obtain ⟨⟩ := s
  obtain ⟨⟩ := s'
  simp only at url dn tls timeout
  rw [url, dn, tls, timeout]

end Ldap

namespace Logging

/-- Each field is the value of its key, or its default. -/
structure Gives (es : Entries) (s : Logging) : Prop where
  level : Takes (es.at? "level") .string "info" s.level
  format : Takes (es.at? "format") .string "pretty" s.format

theorem gives_of_typed (h : Typed known es) : Gives es (ofEntries es) := by
  simp only [Typed, known, List.forall_mem_cons] at h
  obtain ⟨level, format, -⟩ := h
  exact ⟨takes_string level, takes_string format⟩

theorem Gives.typed {s : Logging} (h : Gives es s) : Typed known es := by
  simp only [Typed, known, List.forall_mem_cons]
  refine ⟨?_, ?_, List.forall_mem_nil _⟩
  · exact fun v found => ⟨_, h.level.eq_of_found v found⟩
  · exact fun v found => ⟨_, h.format.eq_of_found v found⟩

theorem Gives.eq {s s' : Logging} (h : Gives es s) (h' : Gives es s') : s = s' := by
  have level := h.level.eq (fun _ _ => Value.string.inj) h'.level
  have format := h.format.eq (fun _ _ => Value.string.inj) h'.format
  obtain ⟨⟩ := s
  obtain ⟨⟩ := s'
  simp only at level format
  rw [level, format]

end Logging

/-- The settings are what the document says: each field is the value of its key, or its default. -/
structure Gives (es : Entries) (s : Settings) : Prop where
  ldap : Ldap.Gives (es.tableAt "ldap") s.ldap
  logging : Logging.Gives (es.tableAt "logging") s.logging

theorem Gives.wellTyped (h : Gives es s) : WellTyped es := ⟨h.ldap.typed, h.logging.typed⟩

theorem Gives.eq {s' : Settings} (h : Gives es s) (h' : Gives es s') : s = s' := by
  have ldap := h.ldap.eq h'.ldap
  have logging := h.logging.eq h'.logging
  obtain ⟨⟩ := s
  obtain ⟨⟩ := s'
  simp only at ldap logging
  rw [ldap, logging]

/-- The settings that the two tables of a document give. -/
def ofTables (es : Entries) : Settings where
  ldap := Ldap.ofEntries (es.tableAt "ldap")
  logging := Logging.ofEntries (es.tableAt "logging")

theorem WellTyped.gives (h : WellTyped es) : Gives es (ofTables es) :=
  ⟨Ldap.gives_of_typed h.ldap, Logging.gives_of_typed h.logging⟩

/-- A section gives what its table does; without one there are the defaults. -/
theorem getD_ofValue {α : Type} {ofValue : Value → α} {ofEntries : Entries → α} {default : α}
    (table : ∀ kind inner, ofValue (.table kind inner) = ofEntries inner)
    (none : ofEntries [] = default) (isSection : IsSection es key) :
    ((es.get? key).map fun v => ofValue v.2).getD default = ofEntries (es.tableAt key) := by
  have value : ((es.get? key).map fun v => ofValue v.2) = (es.at? key).map ofValue := by
    rw [Entries.at?, Option.map_map]
    rfl
  rw [value, Entries.tableAt]
  cases found : es.at? key with
  | none => exact none.symm
  | some v =>
    obtain ⟨kind, inner, rfl⟩ := isSection v found
    exact table kind inner

/-- **The settings of a document are what it says**, where its sections are tables and every number
in it is one that some type holds; there are none otherwise. -/
theorem ofEntries_eq_ok_iff (h : es.Distinct) (ldap : IsSection es "ldap")
    (logging : IsSection es "logging") : ofEntries es = .ok s ↔ AllRead es ∧ Gives es s := by
  have ldapTable : ((es.get? "ldap").map fun v => Ldap.ofValue v.2).getD {} =
      Ldap.ofEntries (es.tableAt "ldap") := getD_ofValue (fun _ _ => rfl) rfl ldap
  have loggingTable : ((es.get? "logging").map fun v => Logging.ofValue v.2).getD {} =
      Logging.ofEntries (es.tableAt "logging") := getD_ofValue (fun _ _ => rfl) rfl logging
  have fits := leastFault?_section_eq_none_iff h ldap logging
  rw [ofEntries, ldapTable, loggingTable, ← ofTables]
  split
  · rename_i misfit found
    refine iff_of_false (by simp) ?_
    rintro ⟨read, given⟩
    rw [fits.2 ⟨given.wellTyped, read⟩] at found
    cases found
  · rename_i none
    obtain ⟨typed, read⟩ := fits.1 none
    constructor
    · intro same
      obtain rfl := Except.ok.inj same
      exact ⟨read, typed.gives⟩
    · rintro ⟨-, given⟩
      rw [typed.gives.eq given]

/-! ## Files -/

variable {text : List Char}

theorem ofToml_eq_ok_iff (parsed : Toml.parse text = .ok es) :
    ofToml text = .ok s ↔ ofEntries es = .ok s := by
  rw [ofToml, parsed]
  dsimp only
  rcases ofEntries es with ⟨span, message⟩ | t
  · dsimp only
    split <;> simp
  · rw [Except.ok.injEq, Except.ok.injEq]

/-- Whatever a text fails for, it is told as a fault of the configuration. -/
theorem exists_report_of_ofToml {f : Failure} (h : ofToml text = .error f) :
    ∃ report : String, f = .invalidConfig s!"Failed to parse config: {report}" := by
  unfold ofToml at h
  split at h
  · obtain rfl := Except.error.inj h
    exact ⟨_, rfl⟩
  · split at h
    · cases h
    · split at h
      · obtain rfl := Except.error.inj h
        exact ⟨_, rfl⟩
      · obtain rfl := Except.error.inj h
        exact ⟨_, rfl⟩

theorem ofFile_encode (text : List Char) : ofFile (.content (Utf8.encode text)) = ofToml text := by
  rw [ofFile, Utf8.decode?_encode]

/-- The settings of a document as a file, if it gives any. -/
theorem ofFile_eq_ok_iff (parsed : Toml.parse text = .ok es) (ldap : IsSection es "ldap")
    (logging : IsSection es "logging") :
    ofFile (.content (Utf8.encode text)) = .ok s ↔ AllRead es ∧ Gives es s := by
  rw [ofFile_encode, ofToml_eq_ok_iff parsed,
    ofEntries_eq_ok_iff (Toml.distinct_of_parse parsed) ldap logging]

/-- Two documents say the same of every known key. -/
structure AgreeOnKnown (es es' : Entries) : Prop where
  serverUrl : (es.tableAt "ldap").at? "server_url" = (es'.tableAt "ldap").at? "server_url"
  bindDn : (es.tableAt "ldap").at? "bind_dn" = (es'.tableAt "ldap").at? "bind_dn"
  startTls : (es.tableAt "ldap").at? "start_tls" = (es'.tableAt "ldap").at? "start_tls"
  timeoutSeconds :
    (es.tableAt "ldap").at? "timeout_seconds" = (es'.tableAt "ldap").at? "timeout_seconds"
  level : (es.tableAt "logging").at? "level" = (es'.tableAt "logging").at? "level"
  format : (es.tableAt "logging").at? "format" = (es'.tableAt "logging").at? "format"

theorem AgreeOnKnown.symm {es' : Entries} (h : AgreeOnKnown es es') : AgreeOnKnown es' es :=
  ⟨h.serverUrl.symm, h.bindDn.symm, h.startTls.symm, h.timeoutSeconds.symm, h.level.symm,
    h.format.symm⟩

theorem Gives.of_agree {es' : Entries} (h : AgreeOnKnown es es') (given : Gives es s) :
    Gives es' s where
  ldap := {
    serverUrl := h.serverUrl ▸ given.ldap.serverUrl
    bindDn := h.bindDn ▸ given.ldap.bindDn
    startTls := h.startTls ▸ given.ldap.startTls
    timeoutSeconds := h.timeoutSeconds ▸ given.ldap.timeoutSeconds }
  logging := {
    level := h.level ▸ given.logging.level
    format := h.format ▸ given.logging.format }

/-- What becomes of a file that holds a document with these entries. -/
structure Loads (text : List Char) (es : Entries) : Prop where
  /-- No key of the document has two values. -/
  distinct : es.Distinct
  /-- It gives settings exactly when every known key that is present has its kind, and every number
  in it, under whatever key, is one that some type holds. -/
  accepted : (∃ s, ofFile (.content (Utf8.encode text)) = .ok s) ↔ WellTyped es ∧ AllRead es
  /-- Each field is then the value of its key, or its default. -/
  fields : ∀ s, ofFile (.content (Utf8.encode text)) = .ok s → Gives es s
  /-- Other keys change nothing: the settings are those of any document that says the same of the
  known keys, unless one of the two has a number that no type holds. -/
  others : ∀ text' es', Toml.parse text' = .ok es' → IsSection es' "ldap" →
    IsSection es' "logging" → AgreeOnKnown es es' → (AllRead es ↔ AllRead es') →
    ∀ s, ofFile (.content (Utf8.encode text)) = .ok s ↔
      ofFile (.content (Utf8.encode text')) = .ok s
  /-- Every failure is one of the configuration. -/
  refused : ∀ f, ofFile (.content (Utf8.encode text)) = .error f →
    ∃ report : String, f = .invalidConfig s!"Failed to parse config: {report}"

/-- **What a configuration file may say.** A document is a text that `Toml.parse` reads, so its
arrays and inline tables stand at most `Toml.maxDepth` deep in one another; a file with deeper ones
is refused as no document. -/
theorem loaded_document {text : List Char} {es : Entries} (parsed : Toml.parse text = .ok es)
    (ldap : IsSection es "ldap") (logging : IsSection es "logging") : Loads text es where
  distinct := Toml.distinct_of_parse parsed
  accepted := by
    simp only [ofFile_eq_ok_iff parsed ldap logging]
    constructor
    · rintro ⟨s, read, given⟩
      exact ⟨given.wellTyped, read⟩
    · rintro ⟨typed, read⟩
      exact ⟨ofTables es, read, typed.gives⟩
  fields s loaded := ((ofFile_eq_ok_iff parsed ldap logging).1 loaded).2
  others text' es' parsed' ldap' logging' agree read s := by
    rw [ofFile_eq_ok_iff parsed ldap logging, ofFile_eq_ok_iff parsed' ldap' logging', read]
    constructor
    · rintro ⟨read', given⟩
      exact ⟨read', given.of_agree agree⟩
    · rintro ⟨read', given⟩
      exact ⟨read', given.of_agree agree.symm⟩
  refused f failed := exists_report_of_ofToml (ofFile_encode text ▸ failed)

/-- A document with keys that are known and others that are not. -/
def readerSections : List Toml.Section :=
  [⟨"ldap", [("bind_dn", .string "cn=reader,dc=example,dc=com"), ("timeout_seconds", .natural 5),
    ("colour", .string "blue")]⟩, ⟨"extra", [("limit", .natural 99999999999999999999999)]⟩]

/-- The entries of that document. -/
def readerEntries : Entries := Toml.documentEntries 0 readerSections

theorem loaded_document_of_reader :
    Toml.parse (Toml.documentText readerSections) = .ok readerEntries ∧
      IsSection readerEntries "ldap" ∧ IsSection readerEntries "logging" ∧
      Loads (Toml.documentText readerSections) readerEntries := by
  have plain : Toml.PlainDocument readerSections := by decide
  have parsed := Toml.parse_documentText plain
  have ldap : IsSection readerEntries "ldap" :=
    fun v found => ⟨_, _, (Option.some.inj found).symm⟩
  have logging : IsSection readerEntries "logging" := fun v found => nomatch found
  exact ⟨parsed, ldap, logging, loaded_document parsed ldap logging⟩

/-! ### Numbers that no type holds -/

/-- A document with a number of 129 bits under a key that is not known. -/
def hugeSections : List Toml.Section :=
  [⟨"extra", [("limit", .natural 0x100000000000000000000000000000000)]⟩]

/-- The entries of that document. -/
def hugeEntries : Entries := Toml.documentEntries 0 hugeSections

/-- The text of that document. -/
def hugeText : List Char := "[extra]\nlimit = 340282366920938463463374607431768211456\n".toList

theorem hugeText_eq : hugeText = Toml.documentText hugeSections := by decide

/-- **A number that no type holds makes a file fail**, though every known key has its kind. -/
theorem huge_number_refused :
    Toml.parse hugeText = .ok hugeEntries ∧ IsSection hugeEntries "ldap" ∧
      IsSection hugeEntries "logging" ∧ WellTyped hugeEntries ∧
      ¬ ∃ s, ofFile (.content (Utf8.encode hugeText)) = .ok s := by
  have plain : Toml.PlainDocument hugeSections := by decide
  have parsed : Toml.parse hugeText = .ok hugeEntries :=
    hugeText_eq ▸ Toml.parse_documentText plain
  have ldap : IsSection hugeEntries "ldap" := fun v found => nomatch found
  have logging : IsSection hugeEntries "logging" := fun v found => nomatch found
  have typed : WellTyped hugeEntries :=
    ⟨typed_tableAt (fun _ _ found => nomatch found), typed_tableAt fun _ _ found => nomatch found⟩
  refine ⟨parsed, ldap, logging, typed, ?_⟩
  rintro ⟨s, loaded⟩
  obtain ⟨read, -⟩ := (ofFile_eq_ok_iff parsed ldap logging).1 loaded
  have stands : (Value.table .explicit hugeEntries).Holds
      (.integer (0x100000000000000000000000000000000 : Nat)) :=
    .member List.mem_cons_self (.member List.mem_cons_self (.self _))
  obtain ⟨-, small⟩ := read _ stands
  omega

end Gatekeeper.Settings
