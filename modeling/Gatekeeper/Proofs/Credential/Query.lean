import Gatekeeper.Proofs.Credential.GuardedRun
import Gatekeeper.Proofs.Url.Form

/-!
# Attempts that come from a query string

The password of such an attempt is the value of the first parameter with the key `password`
(`ofQuery_password_eq_some_iff`), which has two sides. Whoever writes the query as a form is
understood: from every spelling of a list of pairs comes the first password of the list, and
nothing else (`ofQuery_of_spells`). And whoever can only add to a query that has a password has no
influence: what is put behind an ampersand counts for nothing, and the binder is called with the
first password or not at all (`ofQuery_append_contract`).
-/

namespace Gatekeeper.Credential

open Url

/-! ## The first password of a form -/

/-- The attempt has the password of the first pair with the key, and none where no pair has it. -/
structure TakesFirst (ps : List (String × String)) (a : Attempt) : Prop where
  some_iff : ∀ v, a.password = some v ↔
    ∃ before after, ps = before ++ ("password", v) :: after ∧ ∀ p ∈ before, p.1 ≠ "password"
  none_iff : a.password = none ↔ ∀ p ∈ ps, p.1 ≠ "password"

theorem takesFirst_of_eq {ps : List (String × String)} {a : Attempt}
    (h : a.password = ps.lookup "password") : TakesFirst ps a where
  some_iff v := by
    rw [h, List.lookup_eq_some_iff]
    simp only [bne_iff_ne, ne_comm]
  none_iff := by
    rw [h, List.lookup_eq_none_iff]
    simp only [bne_iff_ne, ne_comm]

/-- **A query undoes the encoding of a form.** From every spelling of a list of pairs, behind any
number of question marks, comes the first password of the list, character for character, and none
exactly where the list has none. Server and name are taken over as they are. -/
theorem ofQuery_of_spells (server dn : String) {ps : List (String × String)} {t : List Char}
    (h : Form.Spells ps t) (n : Nat) :
    (Attempt.ofQuery server dn (String.ofList (List.replicate n '?' ++ t))).server = server ∧
    (Attempt.ofQuery server dn (String.ofList (List.replicate n '?' ++ t))).bindDn = dn ∧
    TakesFirst ps (Attempt.ofQuery server dn (String.ofList (List.replicate n '?' ++ t))) :=
  ⟨rfl, rfl, takesFirst_of_eq (h.first?_eq "password" n)⟩

/-- The key has an escape in it, the value has one digit of each case, and a second password
follows. -/
theorem ofQuery_of_escaped_key :
    Form.Spells [("a", ""), ("password", "é "), ("password", "x")]
      "a=&&%70assword=%c3%A9+&password=x".toList ∧
    (Attempt.ofQuery "host:389" "cn=admin"
      "??a=&&%70assword=%c3%A9+&password=x").password = some "é " := by
  have key : Form.SpellsText "password" "%70assword".toList :=
    Form.SpellsBytes.cons (Form.SpellsByte.escape (b := 0x70) (Or.inl rfl) (Or.inl rfl))
      (Form.spellsText_encode "assword")
  have value : Form.SpellsText "é " "%c3%A9+".toList :=
    Form.SpellsBytes.cons (Form.SpellsByte.escape (b := 0xc3) (Or.inl rfl) (Or.inl rfl))
      (Form.SpellsBytes.cons (Form.SpellsByte.escape (b := 0xa9) (Or.inr rfl) (Or.inl rfl))
        (Form.SpellsBytes.cons Form.SpellsByte.plus Form.SpellsBytes.nil))
  have spelled : Form.Spells [("a", ""), ("password", "é "), ("password", "x")]
      "a=&&%70assword=%c3%A9+&password=x".toList :=
    Form.Spells.cons
      (Form.SpellsPair.pair (Form.spellsText_encode "a") (Form.spellsText_encode "")) 1
      (Form.Spells.cons (Form.SpellsPair.pair key value) 0
        (Form.Spells.single
          (Form.SpellsPair.pair (Form.spellsText_encode "password") (Form.spellsText_encode "x"))))
  refine ⟨spelled, ?_⟩
  have first := (ofQuery_of_spells "host:389" "cn=admin" spelled 2).2.2.some_iff "é "
  exact first.2 ⟨[("a", "")], [("password", "x")], rfl, by simp⟩

/-! ## What is put behind a query -/

/-- The text is the value of the first parameter `password`, question marks in front kept. -/
def IsFirstPassword (cs : List Char) (p : String) : Prop :=
  ∃ part, Query.IsFirst "password".toList cs part ∧ String.ofList (Query.pair part).2 = p

theorem isFirstPassword_iff {cs : List Char} {p : String} :
    IsFirstPassword cs p ↔
      (Query.lookup? "password".toList cs).map String.ofList = some p := by
  rw [IsFirstPassword, Option.map_eq_some_iff]
  constructor
  · rintro ⟨part, first, value⟩
    exact ⟨_, Query.lookup?_eq_some_iff.2 ⟨part, first, rfl⟩, value⟩
  · rintro ⟨v, found, value⟩
    obtain ⟨part, first, rfl⟩ := Query.lookup?_eq_some_iff.1 found
    exact ⟨part, first, value⟩

theorem ofQuery_password_eq_some_iff {server dn q p : String} :
    (Attempt.ofQuery server dn q).password = some p ↔
      IsFirstPassword (Query.stripped q.toList) p := by
  rw [isFirstPassword_iff, ← Query.first?_eq]
  rfl

theorem ofQuery_append (server dn q q' : String) :
    Attempt.ofQuery server dn (q ++ "&" ++ q') =
      ⟨server, dn, (Attempt.ofQuery server dn q).password.or (Query.raw? "password" q')⟩ := by
  rw [Attempt.ofQuery, Query.first?_append]
  rfl

/-- **No pollution of the password.** What stands behind an ampersand gives the password only where
nothing in front of it does, and question marks behind it are kept. So nothing that is put behind a
query with a password makes another attempt of it, and the binder is called at most once, with the
text of the first password of the whole query, which then has a character that is no white space. -/
theorem ofQuery_append_contract (server dn q q' : String) :
    Attempt.ofQuery server dn (q ++ "&" ++ q') =
      ⟨server, dn, (Attempt.ofQuery server dn q).password.or (Query.raw? "password" q')⟩ ∧
    (∀ p, Query.raw? "password" q' = some p ↔ IsFirstPassword q'.toList p) ∧
    ((Attempt.ofQuery server dn q).password ≠ none →
      Attempt.ofQuery server dn (q ++ "&" ++ q') = Attempt.ofQuery server dn q) ∧
    ∀ script calls,
      (guarded (scripted script) (Attempt.ofQuery server dn (q ++ "&" ++ q')) calls).world =
        calls ∨
      ∃ c : Cleared,
        (guarded (scripted script) (Attempt.ofQuery server dn (q ++ "&" ++ q')) calls).world =
          calls ++ [c] ∧
        c.toAttempt = Attempt.ofQuery server dn (q ++ "&" ++ q') ∧
        IsFirstPassword (Query.stripped (q ++ "&" ++ q').toList) c.password ∧
        HasVisible c.password := by
  refine ⟨ofQuery_append server dn q q', fun p => isFirstPassword_iff.symm, ?_, ?_⟩
  · intro h
    obtain ⟨p, hp⟩ := Option.ne_none_iff_exists'.1 h
    rw [ofQuery_append, hp, Option.some_or, ← hp]
    rfl
  · intro script calls
    rcases call_of_guarded script (Attempt.ofQuery server dn (q ++ "&" ++ q')) calls with
      none | ⟨c, call, same, visible⟩
    · exact Or.inl none
    · have password : (Attempt.ofQuery server dn (q ++ "&" ++ q')).password = some c.password := by
        rw [← same]
        rfl
      exact Or.inr ⟨c, call, same, ofQuery_password_eq_some_iff.1 password, visible⟩

/-- A blank password in front keeps the one behind it out, and nothing is called. -/
theorem ofQuery_append_blank :
    (Attempt.ofQuery "host:389" "cn=admin" "password=+").password ≠ none ∧
    (Attempt.ofQuery "host:389" "cn=admin" ("password=+" ++ "&" ++ "password=x")).password =
      some " " ∧
    (guarded (scripted fun _ => .ok ())
      (Attempt.ofQuery "host:389" "cn=admin" ("password=+" ++ "&" ++ "password=x")) []).world =
        [] := by
  have blank : Attempt.ofQuery "host:389" "cn=admin" "password=+" =
      ⟨"host:389", "cn=admin", some " "⟩ := by decide +kernel
  have present : (Attempt.ofQuery "host:389" "cn=admin" "password=+").password ≠ none := by
    rw [blank]
    exact Option.some_ne_none _
  have contract := ofQuery_append_contract "host:389" "cn=admin" "password=+" "password=x"
  have same := contract.2.2.1 present
  refine ⟨present, by rw [same, blank], ?_⟩
  rw [same, blank, guarded_of_rejected (by decide)]

end Gatekeeper.Credential
