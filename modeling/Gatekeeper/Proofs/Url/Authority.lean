import Gatekeeper.Proofs.Url.Spelling

/-!
# URLs with a host and a port

What an uninterpreted scheme puts before its path: a URL that is read has a host of such a scheme
and a port of sixteen bits (`isHostPort_of_parse`), and a scheme, such a host and such a port,
written one behind the other, are read as they are, with nothing else in the URL (`parse_hostPort`):
they spell a URL without user information and without a rest.
-/

namespace Gatekeeper.Url

/-! ## What is read -/

theorem readPort_le {cs rest : List Char} {p : Nat} (h : readPort cs = .ok (some p, rest)) :
    p ≤ 65535 := by
  unfold readPort at h
  dsimp only at h
  split at h
  · cases h
  · rename_i small
    have value : (if (cs.takeWhile Char.isDigit).isEmpty then none
        else some (Nat.ofDigitChars 10 (cs.takeWhile Char.isDigit) 0)) = some p → p ≤ 65535 := by
      intro hp
      split at hp
      · cases hp
      · exact Option.some.inj hp ▸ Nat.le_of_not_lt small
    split at h
    · exact value (Prod.mk.inj (Except.ok.inj h)).1
    · exact value (Prod.mk.inj (Except.ok.inj h)).1
    · cases h

/-- What is read of an authority. -/
structure IsHostPort (host : Option Host) (port : Option Nat) : Prop where
  host : ∀ g, host = some g → g.IsOpaque
  port : ∀ p, port = some p → p ≤ 65535

theorem isHostPort_of_hostAndPort {cs rest : List Char} {host : Option Host} {port : Option Nat}
    (h : hostAndPort .uninterpreted cs = .ok (host, port, rest)) : IsHostPort host port := by
  unfold hostAndPort at h
  dsimp only at h
  split at h
  · split at h
    · cases h
    · cases h
      exact ⟨fun _ hg => (Option.some_ne_none _ hg.symm).elim,
        fun _ hp => (Option.some_ne_none _ hp.symm).elim⟩
  · rename_i hne
    rw [if_pos rfl] at h
    rcases hh : opaqueHost (splitHost false cs).1 with fault | g
    · rw [hh] at h
      cases h
    rcases hp : portAfterHost (splitHost false cs).2 with fault | ⟨port', after⟩
    · rw [hh, hp] at h
      cases h
    rw [hh, hp] at h
    cases h
    refine ⟨fun g' hg => ?_, fun p hp' => ?_⟩
    · obtain rfl := Option.some.inj hg
      exact isOpaque_of_opaqueHost (by simpa using hne) hh
    · subst hp'
      unfold portAfterHost at hp
      split at hp
      · exact readPort_le hp
      · cases hp

/-- A URL of an uninterpreted scheme that is read has a host of such a scheme, and a port of sixteen
bits. -/
theorem isHostPort_of_parse {cs : List Char} {u : Url} (h : parse cs = .ok u)
    (hk : Kind.ofScheme u.scheme = .uninterpreted) : IsHostPort u.host u.port := by
  have onward : ∀ {scheme t : List Char}, authorityOnward scheme .uninterpreted t = .ok u →
      IsHostPort u.host u.port := by
    intro scheme t ha
    simp only [authorityOnward] at ha
    split at ha
    · cases ha
    · rcases hp : hostAndPort .uninterpreted
          (splitUserinfo (t.takeWhile fun c => !endsAuthority .uninterpreted c)).2 with
        fault | ⟨host, port, after⟩
      · rw [hp] at ha
        cases ha
      · rw [hp] at ha
        simp only [bind, Except.bind] at ha
        split at ha
        · cases ha
        · cases ha
          exact isHostPort_of_hostAndPort hp
  have other : ∀ {scheme : List Char} {k : Kind}, Kind.ofScheme scheme = k → u.scheme = scheme →
      k = .uninterpreted := by
    rintro scheme k rfl rfl
    exact hk
  unfold parse at h
  split at h
  · cases h
  · split at h
    · rename_i web _
      cases other web (scheme_of_authorityOnward h)
    · rename_i file _
      cases other file (scheme_of_fileOnward h)
    · exact onward h
    · cases h
      exact ⟨fun _ hg => (Option.some_ne_none _ hg.symm).elim,
        fun _ hp => (Option.some_ne_none _ hp.symm).elim⟩

/-! ## What is written -/

/-- **A scheme, a host and a port are read as they are written**, and nothing else is in the URL. -/
theorem parse_hostPort {scheme : List Char} (hs : IsSchemeName scheme)
    (hl : scheme.map Char.toLower = scheme) (hk : Kind.ofScheme scheme = .uninterpreted)
    {host : Host} (h : host.IsOpaque) {port : Nat} (hp : port ≤ 65535) :
    parse (scheme ++ ':' :: '/' :: '/' :: (host.text ++ ':' :: Nat.toDigits 10 port)) =
      .ok ⟨scheme, none, some host, some port, []⟩ := by
  have digit : ∀ c ∈ Nat.toDigits 10 port, c.isDigit = true := fun c hc =>
    Nat.isDigit_of_mem_toDigits (by decide) (by decide) hc
  have value := Nat.ofDigitChars_toDigits (b := 10) (n := port) (by decide) (by decide)
  have spelled : Spelling.IsSpelled ⟨scheme, none, host.text, some (Nat.toDigits 10 port), []⟩
      scheme host := by
    refine ⟨hs, hl, hk, fun _ h => absurd h (Option.not_mem_none _), spellsHost_text h, ?_,
      fun _ h => absurd h (Option.not_mem_none _), List.forall_mem_nil _⟩
    intro cs hcs c hc
    obtain rfl := Option.some.inj hcs
    exact unmarked_of_isDigit (digit c hc)
  have read := Spelling.parse_text spelled
  simpa [Spelling.text, Spelling.userText, Spelling.portText, portAfterHost,
    readPort_digits digit, value, Nat.not_lt.2 hp, Nat.toDigits_ne_nil, Except.map] using read

end Gatekeeper.Url
