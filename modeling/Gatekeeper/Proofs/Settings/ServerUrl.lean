import Gatekeeper.Proofs.Settings.Address
import Gatekeeper.Proofs.Url.Spelling

/-!
# The address that a server URL spells

A server URL is spelled `scheme://userinfo@host:port` with what follows, where the scheme is `ldap`
or `ldaps` in any letter case and all parts but scheme and host may be missing
(`Url.Spelling.IsServer`). Its address is the host as it is told and the port (`SpelledAddress`):
the number that is spelled, whatever zeros stand before it, or the port of the scheme where no digit
is. A port that is no number of sixteen bits is a fault of the settings.
-/

namespace Gatekeeper

namespace Url.Spelling

/-- The URL names a server of one of the two schemes; nothing is said of its port. -/
structure IsServer (u : Spelling) (scheme : String) (host : Host) : Prop where
  known : scheme = "ldap" ∨ scheme = "ldaps"
  /-- The scheme may be spelled in any letter case. -/
  letters : u.scheme.map Char.toLower = scheme.toList
  user : ∀ cs ∈ u.userinfo, ∀ c ∈ cs, isEdge c = false ∧ c ∉ ['/', '?', '#']
  host : SpellsHost u.host host
  /-- The rest begins with a mark that ends the authority. -/
  mark : ∀ c ∈ u.rest.head?, c ∈ ['/', '?', '#']
  rest : ∀ c ∈ u.rest, isEdge c = false

variable {u : Spelling} {scheme : String} {host : Host}

theorem isAlpha_of_toLower {c : Char} (h : c.toLower.isAlpha = true) : c.isAlpha = true := by
  by_cases upper : c.isUpper = true
  · delta Char.isAlpha
    rw [upper, Bool.true_or]
  · have range : ¬ (c.val ≥ 'A'.val ∧ c.val ≤ 'Z'.val) := fun h => upper (decide_eq_true h)
    have same : c.toLower = c := dif_neg range
    rwa [same] at h

theorem IsServer.isSchemeName (h : u.IsServer scheme host) : IsSchemeName u.scheme := by
  have letters : ∀ c ∈ u.scheme, c.isAlpha = true := by
    intro c hc
    have lower : c.toLower ∈ scheme.toList := h.letters ▸ List.mem_map_of_mem hc
    refine isAlpha_of_toLower ?_
    rcases h.known with rfl | rfl
    · exact List.all_eq_true.1 (show "ldap".toList.all Char.isAlpha = true by decide) _ lower
    · exact List.all_eq_true.1 (show "ldaps".toList.all Char.isAlpha = true by decide) _ lower
  constructor
  · rcases hu : u.scheme with - | ⟨c, t⟩
    · have empty := h.letters
      rw [hu] at empty
      rcases h.known with rfl | rfl <;> cases empty
    · exact ⟨c, t, rfl, letters c (hu ▸ List.mem_cons_self)⟩
  · intro c hc
    simp [isSchemeChar, Char.isAlphanum, letters c hc]

/-- Where the port keeps to its characters, the URL is read part by part. -/
theorem IsServer.isSpelled (h : u.IsServer scheme host) (port : u.HasPlainPort) :
    u.IsSpelled scheme.toList host where
  name := h.isSchemeName
  lower := h.letters
  kind := by rcases h.known with rfl | rfl <;> decide
  user := h.user
  host := h.host
  port := port
  mark := h.mark
  rest := h.rest

end Url.Spelling

namespace Settings.Ldap

open Url (Spelling)

variable {s : Ldap} {u : Spelling} {scheme : String} {host : Url.Host}

/-- The port of a scheme. -/
def schemePort (scheme : String) : Nat := if scheme = "ldaps" then 636 else 389

/-- The failure of a server URL whose port is no number of sixteen bits. -/
def badPort (serverUrl : String) : Failure :=
  .invalidConfig s!"Invalid server URL {serverUrl}: {Url.Fault.port.message}"

/-- The address that a spelling comes to. -/
structure SpelledAddress (s : Ldap) (u : Spelling) (scheme : String) (host : Url.Host) : Prop where
  /-- Where no digit is spelled, with a colon or without, the port is that of the scheme. -/
  byScheme : u.port = none ∨ u.port = some [] →
    s.address = .ok s!"{String.ofList host.text}:{schemePort scheme}"
  /-- Digits are the port that they are the number of, whichever scheme has it as its own. -/
  byDigits : ∀ ds, u.port = some ds → ds ≠ [] → (∀ c ∈ ds, c.isDigit = true) →
    Nat.ofDigitChars 10 ds 0 ≤ 65535 →
    s.address = .ok s!"{String.ofList host.text}:{Nat.ofDigitChars 10 ds 0}"
  /-- A number that is too large is refused. -/
  tooLarge : ∀ ds, u.port = some ds → (∀ c ∈ ds, c.isDigit = true) →
    65535 < Nat.ofDigitChars 10 ds 0 → s.address = .error (badPort s.serverUrl)
  /-- What is no number is refused. -/
  noNumber : ∀ cs, u.port = some cs → (∃ c ∈ cs, c.isDigit = false) →
    (∀ c ∈ cs, Url.isEdge c = false ∧ c ∉ ['/', '\\', '?', '#', '@']) →
    s.address = .error (badPort s.serverUrl)

theorem portOf_of_scheme {v : Url} (hv : v.scheme = scheme.toList) :
    portOf v = v.port.getD (schemePort scheme) := by
  have same : isTls v = true ↔ scheme = "ldaps" := by
    rw [isTls, decide_eq_true_iff, hv, String.toList_inj]
  simp only [portOf, schemePort, same, tlsPort, plainPort]

/-- What is read of the URL decides on the address. -/
theorem address_of_parse {v : Url} (hne : s.serverUrl ≠ "")
    (known : scheme = "ldap" ∨ scheme = "ldaps") (h : Url.parse s.serverUrl.toList = .ok v)
    (hv : v.scheme = scheme.toList) (hh : v.host = some host) :
    s.address = .ok s!"{String.ofList host.text}:{v.port.getD (schemePort scheme)}" := by
  have read : s.url = .ok v := by
    refine url_eq_ok_iff.2 ⟨by simpa using hne, h, ?_⟩
    rcases known with rfl | rfl
    · exact Or.inl hv
    · exact Or.inr hv
  refine address_eq_ok_iff.2 ⟨v, host, read, hh, ?_⟩
  rw [portOf_of_scheme hv]

theorem address_of_bad_port (hne : s.serverUrl ≠ "")
    (h : Url.parse s.serverUrl.toList = .error .port) :
    s.address = .error (badPort s.serverUrl) := by
  have given : s.serverUrl.isEmpty = false := by simpa using hne
  rw [address, url, given, if_neg Bool.false_ne_true, h]
  rfl

/-- **The address that a server URL spells**, for every spelling of a URL of one of the two
schemes. -/
theorem address_of_spelling (h : u.IsServer scheme host) (hs : s.serverUrl.toList = u.text) :
    SpelledAddress s u scheme host := by
  have given : s.serverUrl ≠ "" := by
    intro empty
    rw [empty] at hs
    simp [Spelling.text] at hs
  -- Only the port is still open, so its reading settles the address.
  have settle {p : Option Nat} (plain : u.HasPlainPort)
      (hp : Url.portAfterHost u.portText = .ok (p, [])) :
      s.address = .ok s!"{String.ofList host.text}:{p.getD (schemePort scheme)}" := by
    have read := Spelling.parse_text (h.isSpelled plain)
    rw [hp, ← hs] at read
    exact address_of_parse given h.known read rfl rfl
  have refuse (plain : u.HasPlainPort) (hp : Url.portAfterHost u.portText = .error .port) :
      s.address = .error (badPort s.serverUrl) := by
    have read := Spelling.parse_text (h.isSpelled plain)
    rw [hp, ← hs] at read
    exact address_of_bad_port given read
  have plain {ds : List Char} (hp : u.port = some ds) (digits : ∀ c ∈ ds, c.isDigit = true) :
      u.HasPlainPort := by
    intro cs hcs c hc
    obtain rfl := Option.some.inj (hp.symm.trans hcs)
    exact Url.unmarked_of_isDigit (digits c hc)
  refine ⟨fun hp => ?_, fun ds hp hne digits small => ?_, fun ds hp digits large => ?_,
    fun cs hp other marks => ?_⟩
  · have address :
        s.address = .ok s!"{String.ofList host.text}:{none.getD (schemePort scheme)}" := by
      rcases hp with hp | hp
      · exact settle (by simp [Spelling.HasPlainPort, hp]) (Spelling.portAfterHost_of_none hp)
      · exact settle (plain hp (List.forall_mem_nil _)) (Spelling.portAfterHost_of_some hp)
    rwa [Option.getD_none] at address
  · have address := settle (p := some (Nat.ofDigitChars 10 ds 0)) (plain hp digits) (by
      rw [Spelling.portAfterHost_of_some hp, Url.readPort_digits digits,
        if_neg (Nat.not_lt.2 small), if_neg (by simpa using hne)])
    rwa [Option.getD_some] at address
  · refine refuse (plain hp digits) ?_
    rw [Spelling.portAfterHost_of_some hp, Url.readPort_digits digits, if_pos large]
  · refine refuse (fun ds hds c hc => ?_) ?_
    · obtain rfl := Option.some.inj (hp.symm.trans hds)
      obtain ⟨solid, unmarked⟩ := marks c hc
      refine ⟨solid, fun mark => unmarked ?_⟩
      simp only [List.mem_cons, List.not_mem_nil, or_false] at mark ⊢
      rcases mark with mark | mark | mark | mark <;> simp [mark]
    · rw [Spelling.portAfterHost_of_some hp]
      exact Url.readPort_of_other other fun back => (marks _ back).2 (by decide)

/-- A server URL in capitals, with two `@`, an IPv6 literal with an IPv4 tail, and the port of the
other scheme behind zeros. -/
def inCapitals : Spelling where
  scheme := "LDAPS".toList
  userinfo := some "a:b@c".toList
  host := "[0:0::FFFF:1.2.3.40]".toList
  port := some "00389".toList
  rest := "/x?y#z@".toList

/-- Settings with that URL. -/
def settingsInCapitals : Ldap := { serverUrl := "LDAPS://a:b@c@[0:0::FFFF:1.2.3.40]:00389/x?y#z@" }

theorem address_of_spelling_in_capitals :
    inCapitals.IsServer "ldaps" (.ipv6 [0, 0, 0, 0, 0, 0xffff, 0x102, 0x328]) ∧
    settingsInCapitals.serverUrl.toList = inCapitals.text ∧
    settingsInCapitals.address = .ok "[::ffff:102:328]:389" := by
  have literal : Url.Ipv6.Spells "0:0::FFFF:1.2.3.40".toList
      [0, 0, 0, 0, 0, 0xffff, 0x102, 0x328] :=
    Url.Ipv6.parse?_eq_some_iff.1 (by decide +kernel)
  have user : "a:b@c".toList.all
      (fun c => !Url.isEdge c && !List.contains ['/', '?', '#'] c) = true := by decide
  have rest : "/x?y#z@".toList.all (fun c => !Url.isEdge c) = true := by decide
  have server : inCapitals.IsServer "ldaps" (.ipv6 [0, 0, 0, 0, 0, 0xffff, 0x102, 0x328]) := {
    known := Or.inr rfl
    letters := rfl
    user := by
      rintro cs ⟨rfl⟩ c hc
      simpa using List.all_eq_true.1 user c hc
    host := .literal literal
    mark := by simp [inCapitals]
    rest := fun c hc => by simpa using List.all_eq_true.1 rest c hc }
  have spelled : SpelledAddress settingsInCapitals inCapitals "ldaps" _ :=
    address_of_spelling server rfl
  have digits := List.all_eq_true.1 (show "00389".toList.all Char.isDigit = true by decide)
  exact ⟨server, rfl, spelled.byDigits "00389".toList rfl (by decide) digits (by decide)⟩

end Settings.Ldap

end Gatekeeper
