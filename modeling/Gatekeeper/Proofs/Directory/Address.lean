import Gatekeeper.Proofs.Directory.Exchange
import Gatekeeper.Proofs.Settings.Address
import Gatekeeper.Proofs.Url.Authority

/-!
# The address leads back to the server

The address of settings is made of the host and the port of their server URL, and the dialer makes a
URL of it again. That URL has the same host and the same port and nothing else
(`parse_address`), so it is the server of the settings that is dialed, and settings with that URL as
their server have the same address (`LeadsBack`).
-/

namespace Gatekeeper.Directory

open Credential (Cleared)
open Settings (Ldap)

variable {s : Ldap} {u : Url} {host : Url.Host}

/-- The schemes that are dialed. -/
def schemes : List String := ["ldap", "ldaps"]

/-- The text is a URL of a scheme, a host and a port, with nothing else in it. -/
def Names (text scheme : String) (host : Url.Host) (port : Nat) : Prop :=
  Url.parse text.toList = .ok ⟨scheme.toList, none, some host, some port, []⟩

/-! ## Host and port -/

theorem isHostPort_of_url (hu : s.url = .ok u) : Url.IsHostPort u.host u.port := by
  obtain ⟨-, parsed, scheme⟩ := Ldap.url_eq_ok_iff.1 hu
  refine Url.isHostPort_of_parse parsed ?_
  rcases scheme with h | h <;> rw [h] <;> decide

theorem portOf_le (hu : s.url = .ok u) : Ldap.portOf u ≤ 65535 := by
  unfold Ldap.portOf
  cases hp : u.port with
  | some p => exact (isHostPort_of_url hu).port p hp
  | none =>
    rw [Option.getD_none]
    split <;> decide

theorem toList_hostPort (host : Url.Host) (port : Nat) :
    s!"{String.ofList host.text}:{port}".toList = host.text ++ ':' :: Nat.toDigits 10 port := by
  have digits : (toString port).toList = Nat.toDigits 10 port := Nat.toList_repr
  change (String.ofList host.text ++ ":" ++ toString port).toList = _
  rw [String.toList_append, String.toList_append, String.toList_ofList, digits, List.append_assoc]
  rfl

theorem toList_url (scheme : String) (host : Url.Host) (port : Nat) :
    (scheme ++ "://" ++ s!"{String.ofList host.text}:{port}").toList =
      scheme.toList ++ ':' :: '/' :: '/' :: (host.text ++ ':' :: Nat.toDigits 10 port) := by
  rw [String.toList_append, String.toList_append, toList_hostPort, List.append_assoc]
  rfl

/-- **The URL of an address** has the host and the port of the settings, and nothing else. -/
theorem parse_address (hu : s.url = .ok u) (hh : u.host = some host) {scheme : String}
    (hs : scheme ∈ schemes) :
    Names (scheme ++ "://" ++ s!"{String.ofList host.text}:{Ldap.portOf u}") scheme host
      (Ldap.portOf u) := by
  have isHost := (isHostPort_of_url hu).host host hh
  have word : ∀ t ∈ schemes, Url.IsSchemeName t.toList ∧ t.toList.map Char.toLower = t.toList ∧
      Url.Kind.ofScheme t.toList = .uninterpreted := by
    intro t ht
    simp only [schemes, List.mem_cons, List.not_mem_nil, or_false] at ht
    rcases ht with rfl | rfl <;>
    exact ⟨⟨⟨'l', _, rfl, by decide⟩, List.all_eq_true.1 (by decide)⟩, by decide, by decide⟩
  obtain ⟨name, lower, kind⟩ := word scheme hs
  rw [Names, toList_url]
  exact Url.parse_hostPort name lower kind isHost (portOf_le hu)

/-- Settings with the URL of an address as their server have that address. -/
theorem address_of_names {t : Ldap} {scheme : String} {port : Nat} (hs : scheme ∈ schemes)
    (h : Names t.serverUrl scheme host port) :
    t.address = .ok s!"{String.ofList host.text}:{port}" := by
  refine Ldap.address_eq_ok_iff.2 ⟨_, host, Ldap.url_eq_ok_iff.2 ⟨?_, h, ?_⟩, rfl, rfl⟩
  · rcases he : t.serverUrl.isEmpty with - | -
    · rfl
    · rw [Names, String.isEmpty_iff.1 he] at h
      cases h
  · simp only [schemes, List.mem_cons, List.not_mem_nil, or_false] at hs
    rcases hs with rfl | rfl
    · exact Or.inl rfl
    · exact Or.inr rfl

/-! ## The server that is dialed -/

namespace Dialer

variable {d : Dialer} {c : Cleared}

theorem scheme_mem (d : Dialer) : d.scheme ∈ schemes := by
  rw [scheme]
  split <;> decide

theorem address_of_isConfigured {a : String} (h : (ofSettings s).isConfigured a = true) :
    s.address = .ok a := by
  have h : s.address.toOption = some a := of_decide_eq_true h
  cases ha : s.address with
  | error f =>
    rw [ha] at h
    cases h
  | ok b =>
    rw [ha] at h
    exact congrArg Except.ok (Option.some.inj h)

theorem isConfigured_iff {a : String} :
    (ofSettings s).isConfigured a = true ↔ s.address = .ok a := by
  refine ⟨address_of_isConfigured, fun h => ?_⟩
  simp [isConfigured, ofSettings, h, Except.toOption]

theorem events_binder (d : Dialer) (c : Cleared) (net : Network) :
    (d.binder c net).events = d.dialEvents c := by
  by_cases h : d.Dials c.server
  · rw [binder_of_dials h]
  · obtain ⟨fault, -, hb⟩ := binder_of_not_dials h net
    rw [hb]

end Dialer

/-- The host and the port of settings are found again behind their address. -/
structure LeadsBack (s : Ldap) (a : String) (u : Url) (host : Url.Host) : Prop where
  /-- The server URL of the settings is read, and has a host. -/
  url : s.url = .ok u
  hasHost : u.host = some host
  /-- The URL of the address has that host and the port of the settings. -/
  names : ∀ scheme ∈ schemes, Names (scheme ++ "://" ++ a) scheme host (Ldap.portOf u)
  /-- Settings with that URL have the same address. -/
  address : ∀ scheme ∈ schemes, ∀ t : Ldap, t.serverUrl = scheme ++ "://" ++ a →
    t.address = .ok a

/-- What becomes of an attempt on the server of the settings. -/
structure DialsConfigured (s : Ldap) (c : Cleared) (u : Url) (host : Url.Host) : Prop where
  url : s.url = .ok u
  hasHost : u.host = some host
  /-- No warning is given. -/
  events : ∀ net, ((Dialer.ofSettings s).binder c net).events =
    [Dialer.connectingEvent ((Dialer.ofSettings s).url c.server)]
  /-- The URL that is dialed has the host and the port of the settings. -/
  names : Names ((Dialer.ofSettings s).url c.server) (Dialer.ofSettings s).scheme host
    (Ldap.portOf u)

theorem leadsBack_of_address {a : String} (h : s.address = .ok a) :
    ∃ u host, LeadsBack s a u host := by
  obtain ⟨u, host, hu, hh, rfl⟩ := Ldap.address_eq_ok_iff.1 h
  refine ⟨u, host, hu, hh, fun scheme hs => parse_address hu hh hs, fun scheme hs t ht => ?_⟩
  exact address_of_names hs (ht ▸ parse_address hu hh hs)

/-- The address of settings can be dialed. -/
theorem dials_of_address {a : String} (h : s.address = .ok a) : (Dialer.ofSettings s).Dials a := by
  obtain ⟨u, host, back⟩ := leadsBack_of_address h
  exact ⟨_, back.names _ (Dialer.scheme_mem _)⟩

/-- **The address of settings leads back to their server**, and an attempt that names it is dialed
there. -/
theorem address_leads_back (s : Ldap) :
    (∀ a, s.address = .ok a → ∃ u host, LeadsBack s a u host) ∧
    ∀ c : Cleared, (Dialer.ofSettings s).isConfigured c.server = true →
      ∃ u host, DialsConfigured s c u host := by
  refine ⟨fun a => leadsBack_of_address, fun c hc => ?_⟩
  obtain ⟨u, host, back⟩ := leadsBack_of_address (Dialer.address_of_isConfigured hc)
  refine ⟨u, host, back.url, back.hasHost, fun net => ?_, ?_⟩
  · rw [Dialer.events_binder, Dialer.dialEvents, if_pos hc]
    rfl
  · have url : (Dialer.ofSettings s).url c.server =
        (Dialer.ofSettings s).scheme ++ "://" ++ c.server := rfl
    rw [url]
    exact back.names _ (Dialer.scheme_mem _)

/-- Settings whose server is an address in brackets. -/
def loopback : Ldap := { serverUrl := "ldaps://[0:0::1]" }

/-- An attempt on that server. -/
def onLoopback : Cleared := ⟨"[::1]:636", "cn=a", "pw", rfl⟩

theorem address_leads_back_to_loopback :
    (∃ u host, LeadsBack loopback "[::1]:636" u host) ∧
    ∃ u host, DialsConfigured loopback onLoopback u host := by
  have configured : (Dialer.ofSettings loopback).isConfigured onLoopback.server = true := by
    decide +kernel
  exact ⟨(address_leads_back loopback).1 _ (Dialer.address_of_isConfigured configured),
    (address_leads_back loopback).2 onLoopback configured⟩

end Gatekeeper.Directory
