import Gatekeeper.Proofs.Toml.Distinct
import Gatekeeper.Settings.Document

/-!
# Kinds of values

Each known key of a section asks for a `Kind` of value: `Ldap.known` and `Logging.known` are the
tables of these. A section is `Typed` when every known key that is present has a value of its kind,
and a document is `WellTyped` when its two sections are.

A check of entries looks at each of them (`leastFault?_eq_none_iff`). The checks of the two sections
are those that their tables make (`Ldap.fieldMisfit?_eq`, `Logging.fieldMisfit?_eq`), so a section
is refused when it is not typed, and for a number that no type holds, which may stand under any key
(`leastFault?_checkOf_eq_none_iff`). `leastFault?_section_eq_none_iff` says the same of a document.
-/

namespace Gatekeeper.Settings

open Toml (Entries Span TableKind Value)

variable {es : Entries} {key : String} {span : Span} {v : Value}

/-! ## Kinds -/

/-- What a known key asks for. -/
inductive Kind
  | string
  | boolean
  /-- An integer of 64 bits without a sign. -/
  | uint64
  deriving DecidableEq, Repr

namespace Kind

/-- The value is of the kind. -/
def Of : Kind → Value → Prop
  | string, v => ∃ t, v = .string t
  | boolean, v => ∃ b, v = .boolean b
  | uint64, v => ∃ n : Int, v = .integer n ∧ 0 ≤ n ∧ n < 0x10000000000000000

/-- Why a value is not of the kind. -/
def misfit? : Kind → Value → Option String
  | string => stringMisfit?
  | boolean => booleanMisfit?
  | uint64 => uint64Misfit?

theorem misfit?_eq_none_iff (kind : Kind) : kind.misfit? v = none ↔ kind.Of v := by
  cases kind with
  | string => cases v <;> simp [misfit?, stringMisfit?, Of]
  | boolean => cases v <;> simp [misfit?, booleanMisfit?, Of]
  | uint64 =>
    cases v with
    | integer n =>
      have fits : (0 ≤ n && n < UInt64.size) = true ↔ 0 ≤ n ∧ n < 0x10000000000000000 := by
        rw [Bool.and_eq_true, decide_eq_true_eq, decide_eq_true_eq]
        rfl
      rw [misfit?, uint64Misfit?]
      split
      · rename_i h
        exact iff_of_true rfl ⟨n, rfl, fits.1 h⟩
      · rename_i h
        refine iff_of_false (by simp) ?_
        rintro ⟨m, same, bounds⟩
        obtain rfl := Value.integer.inj same
        exact h (fits.2 bounds)
    | _ => simp [misfit?, uint64Misfit?, Of]

/-- A value of a kind has no number in it that no type holds. -/
theorem Of.isRead {kind : Kind} (h : kind.Of v) : v.All Value.IsRead := by
  cases kind with
  | string =>
    obtain ⟨t, rfl⟩ := h
    exact (Value.IsSingle.all_iff (v := .string t) trivial).2 trivial
  | boolean =>
    obtain ⟨b, rfl⟩ := h
    exact (Value.IsSingle.all_iff (v := .boolean b) trivial).2 trivial
  | uint64 =>
    obtain ⟨n, rfl, low, high⟩ := h
    refine (Value.IsSingle.all_iff (v := .integer n) trivial).2 ?_
    rw [Value.IsRead]
    omega

end Kind

/-- The known keys of the section on the directory. -/
def Ldap.known : List (String × Kind) :=
  [("server_url", .string), ("bind_dn", .string), ("start_tls", .boolean),
    ("timeout_seconds", .uint64)]

/-- The known keys of the section on logging. -/
def Logging.known : List (String × Kind) := [("level", .string), ("format", .string)]

variable {known : List (String × Kind)}

/-- The known keys have values of their kinds, where they have any. -/
def Typed (known : List (String × Kind)) (es : Entries) : Prop :=
  ∀ k ∈ known, ∀ v, es.at? k.1 = some v → k.2.Of v

theorem typed_nil : Typed known [] := nofun

theorem lookup_eq_some_iff {kind : Kind} (once : (known.map (·.1)).Nodup) :
    known.lookup key = some kind ↔ (key, kind) ∈ known := by
  induction known with
  | nil => exact iff_of_false nofun List.not_mem_nil
  | cons k known ih =>
    obtain ⟨name, other⟩ := k
    obtain ⟨fresh, once⟩ := List.nodup_cons.1 once
    rw [List.lookup_cons, List.mem_cons]
    by_cases same : key = name
    · subst same
      have absent : (key, kind) ∉ known := fun h => fresh (List.mem_map.2 ⟨_, h, rfl⟩)
      simp [absent, eq_comm]
    · simp [beq_false_of_ne same, same, ih once]

/-! ## Checks of sections -/

theorem leastFault?_eq_none_iff {check : String → Span → Value → Option Misfit} :
    leastFault? check es = none ↔ ∀ e ∈ es, check e.1 e.2.1 e.2.2 = none := by
  rw [leastFault?, Option.map_eq_none_iff]
  induction es with
  | nil => simp
  | cons e es ih =>
    rw [List.foldr_cons, Value.lesser_eq_none_iff, Option.map_eq_none_iff, ih, List.forall_mem_cons]

theorem unknownMisfit?_eq_none_iff : unknownMisfit? span v = none ↔ v.All Value.IsRead := by
  rw [unknownMisfit?, Option.map_eq_none_iff, Value.unfit?_eq_none_iff]

/-- The misfit of the value of a key, where some keys are known. -/
def checkOf (known : List (String × Kind)) (key : String) (span : Span) (v : Value) :
    Option Misfit :=
  match known.lookup key with
  | some kind => (kind.misfit? v).map (span, ·)
  | none => unknownMisfit? span v

theorem checkOf_eq_none_iff : checkOf known key span v = none ↔
    (∀ kind, known.lookup key = some kind → kind.Of v) ∧ v.All Value.IsRead := by
  unfold checkOf
  cases known.lookup key with
  | none => rw [unknownMisfit?_eq_none_iff, and_iff_right nofun]
  | some kind =>
    rw [Option.map_eq_none_iff, kind.misfit?_eq_none_iff]
    constructor
    · intro h
      refine ⟨fun other same => ?_, h.isRead⟩
      obtain rfl := Option.some.inj same
      exact h
    · exact fun h => h.1 kind rfl

/-- A section is refused for a known key of another kind, and for a number that no type holds. -/
theorem leastFault?_checkOf_eq_none_iff (once : (known.map (·.1)).Nodup) (h : es.Distinct)
    {kind : TableKind} : leastFault? (checkOf known) es = none ↔
      Typed known es ∧ (Value.table kind es).All Value.IsRead := by
  have typed : Typed known es ↔
      ∀ e ∈ es, ∀ kind, known.lookup e.1 = some kind → kind.Of e.2.2 := by
    rw [h.forall_mem_iff (P := fun key v => ∀ kind, known.lookup key = some kind → kind.Of v)]
    simp only [lookup_eq_some_iff once]
    exact ⟨fun h key v found kind mem => h (key, kind) mem v found,
      fun h k mem v found => h k.1 v found k.2 mem⟩
  rw [leastFault?_eq_none_iff, typed, Value.all_table_iff]
  simp only [checkOf_eq_none_iff]
  constructor
  · intro all
    exact ⟨fun e he => (all e he).1, trivial, fun e he => (all e he).2⟩
  · rintro ⟨typed, -, read⟩ e he
    exact ⟨typed e he, read e he⟩

theorem Ldap.fieldMisfit?_eq : Ldap.fieldMisfit? = checkOf Ldap.known := by
  funext key span v
  unfold Ldap.fieldMisfit? checkOf
  by_cases url : key = "server_url"
  · subst url
    rfl
  by_cases dn : key = "bind_dn"
  · subst dn
    rfl
  by_cases tls : key = "start_tls"
  · subst tls
    rfl
  by_cases timeout : key = "timeout_seconds"
  · subst timeout
    rfl
  simp [known, List.lookup_cons, url, dn, tls, timeout, beq_false_of_ne]

theorem Logging.fieldMisfit?_eq : Logging.fieldMisfit? = checkOf Logging.known := by
  funext key span v
  unfold Logging.fieldMisfit? checkOf
  by_cases level : key = "level"
  · subst level
    rfl
  by_cases format : key = "format"
  · subst format
    rfl
  simp [known, List.lookup_cons, level, format, beq_false_of_ne]

theorem Ldap.misfit?_table (span : Span) (kind : TableKind) (inner : Entries) :
    Ldap.misfit? span (.table kind inner) = leastFault? (checkOf Ldap.known) inner := by
  rw [Ldap.misfit?, Ldap.fieldMisfit?_eq]

theorem Logging.misfit?_table (span : Span) (kind : TableKind) (inner : Entries) :
    Logging.misfit? span (.table kind inner) = leastFault? (checkOf Logging.known) inner := by
  rw [Logging.misfit?, Logging.fieldMisfit?_eq]

/-! ## Documents -/

/-- Under the key stands a table, if anything. -/
def IsSection (es : Entries) (key : String) : Prop :=
  ∀ v, es.at? key = some v → ∃ kind inner, v = .table kind inner

/-- Every known key that is present has a value of its kind. -/
structure WellTyped (es : Entries) : Prop where
  ldap : Typed Ldap.known (es.tableAt "ldap")
  logging : Typed Logging.known (es.tableAt "logging")

/-- Every number in the document, under whatever key, is one that some type holds. -/
def AllRead (es : Entries) : Prop := (Value.table .explicit es).All Value.IsRead

/-- A section that is missing has no key of another kind. -/
theorem typed_tableAt (h : ∀ kind inner, es.at? key = some (.table kind inner) →
    Typed known inner) : Typed known (es.tableAt key) := by
  unfold Entries.tableAt
  split
  · rename_i found
    exact h _ _ found
  · exact typed_nil

/-- The check of a section looks at its table. -/
theorem misfit?_section_eq_none_iff {misfit? : Span → Value → Option Misfit}
    (table : ∀ kind inner, misfit? span (.table kind inner) = leastFault? (checkOf known) inner)
    (once : (known.map (·.1)).Nodup) (h : es.Distinct) (isSection : IsSection es key)
    (found : es.get? key = some (span, v)) :
    misfit? span v = none ↔ Typed known (es.tableAt key) ∧ v.All Value.IsRead := by
  have stands := Entries.at?_eq_some_iff.2 ⟨span, found⟩
  obtain ⟨kind, inner, rfl⟩ := isSection v stands
  have distinct := h.tableAt key
  rw [Entries.tableAt_of_at? stands] at distinct ⊢
  rw [table, leastFault?_checkOf_eq_none_iff once distinct]

theorem sectionMisfit?_eq_none_iff (h : es.Distinct) (ldap : IsSection es "ldap")
    (logging : IsSection es "logging") (found : es.get? key = some (span, v)) :
    sectionMisfit? key span v = none ↔
      (key = "ldap" → Typed Ldap.known (es.tableAt "ldap")) ∧
        (key = "logging" → Typed Logging.known (es.tableAt "logging")) ∧ v.All Value.IsRead := by
  unfold sectionMisfit?
  by_cases isLdap : key = "ldap"
  · subst isLdap
    simpa using misfit?_section_eq_none_iff (Ldap.misfit?_table span) (by decide) h ldap found
  by_cases isLogging : key = "logging"
  · subst isLogging
    simpa using misfit?_section_eq_none_iff (Logging.misfit?_table span) (by decide) h logging found
  simp [isLdap, isLogging, unknownMisfit?_eq_none_iff]

/-- A document is refused for a known key of another kind, and for a number that no type holds. -/
theorem leastFault?_section_eq_none_iff (h : es.Distinct) (ldap : IsSection es "ldap")
    (logging : IsSection es "logging") :
    leastFault? sectionMisfit? es = none ↔ WellTyped es ∧ AllRead es := by
  rw [leastFault?_eq_none_iff, AllRead, Value.all_table_iff]
  constructor
  · intro none
    have each {key : String} {span : Span} {v : Value} (found : es.get? key = some (span, v)) :=
      (sectionMisfit?_eq_none_iff h ldap logging found).1 (none _ (Entries.mem_of_get? found))
    refine ⟨⟨typed_tableAt ?_, typed_tableAt ?_⟩, trivial,
      fun e he => (each (h.get?_eq_some_iff.2 he)).2.2⟩
    · intro kind inner found
      obtain ⟨span, stands⟩ := Entries.at?_eq_some_iff.1 found
      exact Entries.tableAt_of_at? found ▸ (each stands).1 rfl
    · intro kind inner found
      obtain ⟨span, stands⟩ := Entries.at?_eq_some_iff.1 found
      exact Entries.tableAt_of_at? found ▸ (each stands).2.1 rfl
  · rintro ⟨typed, -, read⟩ e he
    exact (sectionMisfit?_eq_none_iff h ldap logging (h.get?_eq_some_iff.2 he)).2
      ⟨fun _ => typed.ldap, fun _ => typed.logging, read e he⟩

end Gatekeeper.Settings
