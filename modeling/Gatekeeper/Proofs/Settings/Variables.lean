import Gatekeeper.Proofs.Numeral.Decimal
import Gatekeeper.Proofs.Settings.Document
import Gatekeeper.Settings.Variables

/-!
# Settings from variables are settings from a document

A document assigns what some variables do (`Assigns`) when it has a key for exactly those that
count: each text as it is, the switch as a truth value, and the timeout when its text spells a
number of 64 bits. Such a document is there for all variables (`exists_assigns`), and every such
document, as a file, gives the settings that the variables give (`ofFile_of_assigns`).

A variable has a say in its own field alone (`keeps_others`).
-/

namespace Gatekeeper.Settings

open Toml (Entries Scalar Section Value fieldEntries documentText documentEntries)

variable {lookup lookup' : Lookup} {es : Entries} {text : List Char} {key name : String}

/-! ## Documents that assign what variables do -/

/-- The document has a value for exactly the variables that count, and nothing else. -/
structure Assigns (es : Entries) (lookup : Lookup) : Prop where
  serverUrl :
    (es.tableAt "ldap").at? "server_url" = (lookup Variable.serverUrl).map .string
  bindDn : (es.tableAt "ldap").at? "bind_dn" = (lookup Variable.bindDn).map .string
  startTls : (es.tableAt "ldap").at? "start_tls" =
    (lookup Variable.startTls).map fun t => .boolean (decide (t = "true" ∨ t = "1"))
  timeoutSeconds : ∀ v, (es.tableAt "ldap").at? "timeout_seconds" = some v ↔
    ∃ t n, lookup Variable.timeoutSeconds = some t ∧ Numeral.SpellsUInt64 t n ∧ v = .integer n.toNat
  level : (es.tableAt "logging").at? "level" = (lookup Variable.logLevel).map .string
  format : (es.tableAt "logging").at? "format" = (lookup Variable.logFormat).map .string
  sections : ∀ key v, es.at? key = some v →
    (key = "ldap" ∨ key = "logging") ∧ ∃ kind inner, v = .table kind inner
  ldapKeys : ∀ key v, (es.tableAt "ldap").at? key = some v → key ∈ Ldap.keys
  loggingKeys : ∀ key v, (es.tableAt "logging").at? key = some v → key ∈ Logging.keys

theorem isOn_eq (t : String) : isOn t = decide (t = "true" ∨ t = "1") :=
  (Bool.decide_or _ _).symm

/-- A timeout is read when its text spells a number. -/
theorem timeout_eq_some_iff (lookup : Lookup) (v : Value) :
    ((lookup Variable.timeoutSeconds).bind Numeral.readUInt64?).map naturalValue = some v ↔
      ∃ t n, lookup Variable.timeoutSeconds = some t ∧ Numeral.SpellsUInt64 t n ∧
        v = .integer n.toNat := by
  simp only [Option.map_eq_some_iff, Option.bind_eq_some_iff, Numeral.readUInt64?_eq_some_iff]
  constructor
  · rintro ⟨n, ⟨t, set, spelled⟩, rfl⟩
    exact ⟨t, n, set, spelled, rfl⟩
  · rintro ⟨t, n, set, spelled, rfl⟩
    exact ⟨n, ⟨t, set, spelled⟩, rfl⟩

theorem takes_map {α : Type} {make : α → Value} {default : α} (o : Option α) :
    Takes (o.map make) make default (o.getD default) := by
  cases o with
  | none => exact .inr ⟨rfl, rfl⟩
  | some a => exact .inl rfl

/-- The document says what the variables do. -/
theorem Assigns.gives (h : Assigns es lookup) : Gives es (ofVariables lookup) where
  ldap := {
    serverUrl := h.serverUrl ▸ takes_map _
    bindDn := h.bindDn ▸ takes_map _
    startTls := by
      have switch : (es.tableAt "ldap").at? "start_tls" =
          ((lookup Variable.startTls).map isOn).map .boolean := by
        rw [h.startTls, Option.map_map]
        simp only [Function.comp_def, isOn_eq]
      exact switch ▸ takes_map _
    timeoutSeconds := by
      have timeout := Option.ext fun v =>
        (h.timeoutSeconds v).trans (timeout_eq_some_iff lookup v).symm
      exact timeout ▸ takes_map _ }
  logging := {
    level := h.level ▸ takes_map _
    format := h.format ▸ takes_map _ }

/-! ## Such a document gives their settings -/

theorem Typed.isRead {known : List (String × Kind)} {v : Value} (h : Typed known es)
    (found : es.at? key = some v) (mem : key ∈ known.map (·.1)) : v.All Value.IsRead := by
  obtain ⟨k, hk, rfl⟩ := List.mem_map.1 mem
  exact (h k hk v found).isRead

/-- There is no other number in the document than the timeout. -/
theorem Assigns.allRead (h : Assigns es lookup) (distinct : es.Distinct) : AllRead es := by
  refine distinct.all_table_iff.2 ⟨trivial, fun key v found => ?_⟩
  obtain ⟨rfl | rfl, kind, inner, rfl⟩ := h.sections key v found
  · rw [← Entries.tableAt_of_at? found]
    refine (distinct.tableAt "ldap").all_table_iff.2 ⟨trivial, fun key v stands => ?_⟩
    exact h.gives.wellTyped.ldap.isRead stands (h.ldapKeys key v stands)
  · rw [← Entries.tableAt_of_at? found]
    refine (distinct.tableAt "logging").all_table_iff.2 ⟨trivial, fun key v stands => ?_⟩
    exact h.gives.wellTyped.logging.isRead stands (h.loggingKeys key v stands)

/-- **A document that assigns what the variables do gives their settings.** -/
theorem ofFile_of_assigns (parsed : Toml.parse text = .ok es) (h : Assigns es lookup) :
    ofFile (.content (Utf8.encode text)) = .ok (ofVariables lookup) :=
  (ofFile_eq_ok_iff parsed (fun v found => (h.sections _ v found).2)
    fun v found => (h.sections _ v found).2).2 ⟨h.allRead (Toml.distinct_of_parse parsed), h.gives⟩

/-! ## There is such a document -/

/-- The fields that have a value. -/
def present (fields : List (String × Option Scalar)) : List (String × Scalar) :=
  fields.filterMap fun f => f.2.map (f.1, ·)

theorem keys_present (fields : List (String × Option Scalar)) :
    ((present fields).map (·.1)).Sublist (fields.map (·.1)) := by
  induction fields with
  | nil => exact .slnil
  | cons f fields ih =>
    obtain ⟨key, value⟩ := f
    cases value with
    | none => exact .cons _ ih
    | some v => exact .cons_cons _ ih

theorem plainFields_present {fields : List (String × Option Scalar)}
    (bare : ∀ key ∈ fields.map (·.1), Toml.IsBare key) (once : (fields.map (·.1)).Nodup) :
    Toml.PlainFields (present fields) where
  bare f hf := bare f.1 ((keys_present fields).subset (List.mem_map_of_mem hf))
  distinct := once.sublist (keys_present fields)

theorem lookup_of_not_mem {fields : List (String × Option Scalar)}
    (h : key ∉ fields.map (·.1)) : fields.lookup key = none :=
  List.lookup_eq_none_iff.2 fun f hf =>
    bne_iff_ne.2 fun same => h (List.mem_map.2 ⟨f, hf, same.symm⟩)

/-- A key has the value of its field. -/
theorem at?_present {fields : List (String × Option Scalar)} (once : (fields.map (·.1)).Nodup)
    (offset : Nat) (key : String) : Entries.at? (fieldEntries offset (present fields)) key =
      ((fields.lookup key).bind id).map Scalar.value := by
  induction fields generalizing offset with
  | nil => rfl
  | cons f fields ih =>
    obtain ⟨name, value⟩ := f
    obtain ⟨fresh, others⟩ := List.nodup_cons.1 once
    rw [List.lookup_cons]
    by_cases same : key = name
    · subst same
      rw [beq_self_eq_true, Option.bind_some, id]
      cases value with
      | none => exact (ih others offset).trans (by rw [lookup_of_not_mem fresh]; rfl)
      | some v => exact (Entries.at?_cons _).trans (if_pos rfl)
    · rw [beq_eq_false_iff_ne.2 same]
      cases value with
      | none => exact ih others offset
      | some v => exact ((Entries.at?_cons _).trans (if_neg (Ne.symm same))).trans (ih others _)

namespace Ldap

/-- What variables assign in the section. -/
def assigned (lookup : Lookup) : List (String × Option Scalar) :=
  [("server_url", (lookup Variable.serverUrl).map .string),
    ("bind_dn", (lookup Variable.bindDn).map .string),
    ("start_tls", (lookup Variable.startTls).map fun t => .boolean (isOn t)),
    ("timeout_seconds",
      ((lookup Variable.timeoutSeconds).bind Numeral.readUInt64?).map fun n => .natural n.toNat)]

theorem keys_assigned (lookup : Lookup) : (assigned lookup).map (·.1) = keys := rfl

end Ldap

namespace Logging

/-- What variables assign in the section. -/
def assigned (lookup : Lookup) : List (String × Option Scalar) :=
  [("level", (lookup Variable.logLevel).map .string),
    ("format", (lookup Variable.logFormat).map .string)]

theorem keys_assigned (lookup : Lookup) : (assigned lookup).map (·.1) = keys := rfl

end Logging

/-- The sections that variables fill. -/
def filled (lookup : Lookup) : List Section :=
  [⟨"ldap", present (Ldap.assigned lookup)⟩, ⟨"logging", present (Logging.assigned lookup)⟩]

theorem plain_filled (lookup : Lookup) : Toml.PlainDocument (filled lookup) := by
  have ldap : Toml.PlainFields (present (Ldap.assigned lookup)) :=
    plainFields_present (Ldap.keys_assigned lookup ▸ by decide)
      (Ldap.keys_assigned lookup ▸ by decide)
  have logging : Toml.PlainFields (present (Logging.assigned lookup)) :=
    plainFields_present (Logging.keys_assigned lookup ▸ by decide)
      (Logging.keys_assigned lookup ▸ by decide)
  refine ⟨?_, show ["ldap", "logging"].Nodup by decide⟩
  simp only [filled, List.forall_mem_cons]
  exact ⟨⟨show Toml.IsBare "ldap" by decide, ldap⟩, ⟨show Toml.IsBare "logging" by decide, logging⟩,
    List.forall_mem_nil _⟩

/-- **For all variables there is a document that assigns what they do.** -/
theorem exists_assigns (lookup : Lookup) :
    ∃ text es, Toml.parse text = .ok es ∧ Assigns es lookup := by
  refine ⟨_, _, Toml.parse_documentText (plain_filled lookup), ?_⟩
  have ldap (key : String) :
      Entries.at? (Entries.tableAt (documentEntries 0 (filled lookup)) "ldap") key =
        (((Ldap.assigned lookup).lookup key).bind id).map Scalar.value :=
    at?_present (Ldap.keys_assigned lookup ▸ by decide) _ key
  have logging (key : String) :
      Entries.at? (Entries.tableAt (documentEntries 0 (filled lookup)) "logging") key =
        (((Logging.assigned lookup).lookup key).bind id).map Scalar.value :=
    at?_present (Logging.keys_assigned lookup ▸ by decide) _ key
  constructor
  · exact (ldap "server_url").trans (Option.map_map _ _ _)
  · exact (ldap "bind_dn").trans (Option.map_map _ _ _)
  · refine (ldap "start_tls").trans ((Option.map_map _ _ _).trans ?_)
    simp only [Function.comp_def, isOn_eq]
    rfl
  · have timeout : (((Ldap.assigned lookup).lookup "timeout_seconds").bind id).map Scalar.value =
        ((lookup Variable.timeoutSeconds).bind Numeral.readUInt64?).map naturalValue :=
      Option.map_map _ _ _
    intro v
    rw [ldap "timeout_seconds", timeout, timeout_eq_some_iff]
  · exact (logging "level").trans (Option.map_map _ _ _)
  · exact (logging "format").trans (Option.map_map _ _ _)
  · intro key v found
    replace found := (Entries.at?_cons _).symm.trans found
    split at found
    · rename_i same
      exact ⟨.inl same.symm, _, _, (Option.some.inj found).symm⟩
    · replace found := (Entries.at?_cons _).symm.trans found
      split at found
      · rename_i same
        exact ⟨.inr same.symm, _, _, (Option.some.inj found).symm⟩
      · cases found
  · intro key v found
    refine Classical.by_contradiction fun absent => ?_
    rw [ldap key, lookup_of_not_mem (Ldap.keys_assigned lookup ▸ absent)] at found
    cases found
  · intro key v found
    refine Classical.by_contradiction fun absent => ?_
    rw [logging key, lookup_of_not_mem (Logging.keys_assigned lookup ▸ absent)] at found
    cases found

/-! ## Single variables -/

/-- Two configurations differ in the field of a variable at most. -/
structure KeepsOthers (name : String) (s s' : Settings) : Prop where
  serverUrl : name ≠ Variable.serverUrl → s'.ldap.serverUrl = s.ldap.serverUrl
  bindDn : name ≠ Variable.bindDn → s'.ldap.bindDn = s.ldap.bindDn
  startTls : name ≠ Variable.startTls → s'.ldap.startTls = s.ldap.startTls
  timeoutSeconds :
    name ≠ Variable.timeoutSeconds → s'.ldap.timeoutSeconds = s.ldap.timeoutSeconds
  level : name ≠ Variable.logLevel → s'.logging.level = s.logging.level
  format : name ≠ Variable.logFormat → s'.logging.format = s.logging.format

/-- Whatever becomes of one variable, the fields of the others stay. -/
theorem keeps_others (h : ∀ other, other ≠ name → lookup' other = lookup other) :
    KeepsOthers name (ofVariables lookup) (ofVariables lookup') where
  serverUrl own := by simp only [ofVariables, h _ (Ne.symm own)]
  bindDn own := by simp only [ofVariables, h _ (Ne.symm own)]
  startTls own := by simp only [ofVariables, h _ (Ne.symm own)]
  timeoutSeconds own := by simp only [ofVariables, h _ (Ne.symm own)]
  level own := by simp only [ofVariables, h _ (Ne.symm own)]
  format own := by simp only [ofVariables, h _ (Ne.symm own)]

/-- How variables and documents go together. -/
structure TwoSpellings (lookup : Lookup) : Prop where
  /-- There is a document that assigns what the variables do. -/
  exists_document : ∃ text es, Toml.parse text = .ok es ∧ Assigns es lookup
  /-- Every such document gives the settings of the variables. -/
  same_settings : ∀ text es, Toml.parse text = .ok es → Assigns es lookup →
    ofFile (.content (Utf8.encode text)) = .ok (ofVariables lookup)
  /-- A change of one variable changes its own field at most. -/
  own_field : ∀ name lookup', (∀ other, other ≠ name → lookup' other = lookup other) →
    KeepsOthers name (ofVariables lookup) (ofVariables lookup')

/-- **Variables and files are two spellings of one configuration.** -/
theorem variables_as_document (lookup : Lookup) : TwoSpellings lookup where
  exists_document := exists_assigns lookup
  same_settings _ _ := ofFile_of_assigns
  own_field _ _ := keeps_others

end Gatekeeper.Settings
