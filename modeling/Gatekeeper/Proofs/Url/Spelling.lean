import Gatekeeper.Proofs.Url.Host
import Gatekeeper.Proofs.Url.Scheme
import Mathlib.Data.List.Basic
import Mathlib.Data.List.TakeWhile

/-!
# URLs of servers, part by part

A URL of an uninterpreted scheme as it is spelled: `scheme://userinfo@host:port` and what follows,
where user information, port and the rest may be missing (`Spelling`). Each part keeps to the
characters that cannot be taken for another part (`Spelling.IsSpelled`), so the URL is read part by
part (`Spelling.parse_text`): the host as it is told (`SpellsHost`), and the port by the rules for
ports, of which there are two. Digits are a port unless they are too large (`readPort_digits`), and
anything else is none (`readPort_of_other`).
-/

namespace Gatekeeper.Url

/-! ## Hosts as they are spelled -/

/-- A character of a name as it is told: those of ASCII that can be seen are told as they are, and
the delete character and all others by the escapes of their bytes. -/
def tellChar (c : Char) : List Char :=
  if c.toNat < 0x7f then [c] else (Utf8.encodeChar c).flatMap Percent.escape

/-- The spellings of a host. -/
inductive SpellsHost : List Char → Host → Prop
  /-- A name without control characters of ASCII, blanks and the marks of a URL. -/
  | name {t : List Char} (ne_nil : t ≠ []) (solid : ∀ c ∈ t, isEdge c = false)
    (unmarked : ∀ c ∈ t, c ∉ "#/:<>?@[\\]^|".toList) : SpellsHost t (.name (t.flatMap tellChar))
  /-- An IPv6 literal in brackets. -/
  | literal {t : List Char} {ps : List Nat} (h : Ipv6.Spells t ps) :
    SpellsHost ('[' :: (t ++ [']'])) (.ipv6 ps)

variable {t : List Char} {host : Host} {c : Char}

theorem isForbidden_eq_false (solid : isEdge c = false) (unmarked : c ∉ "#/:<>?@[\\]^|".toList) :
    isForbidden c = false := by
  have other : ∀ d ∈ "\x00\t\n\r ".toList, c ≠ d := by
    rintro d hd rfl
    have edge : "\x00\t\n\r ".toList.all isEdge = true := by decide
    rw [List.all_eq_true.1 edge _ hd] at solid
    cases solid
  by_contra h
  have member := List.contains_iff_mem.1 (Bool.not_eq_false _ ▸ h)
  have split : "\x00\t\n\r #/:<>?@[\\]^|".toList = "\x00\t\n\r ".toList ++ "#/:<>?@[\\]^|".toList :=
    rfl
  rw [split, List.mem_append] at member
  exact member.elim (fun hc => other c hc rfl) unmarked

theorem encode_eq_flatMap_tellChar (solid : ∀ c ∈ t, isEdge c = false) :
    Percent.encode isPlain t = t.flatMap tellChar := by
  refine List.flatMap_congr fun c hc => ?_
  have visible : ¬ c.toNat ≤ 0x20 := of_decide_eq_false (solid c hc)
  have same : isPlain c = true ↔ c.toNat < 0x7f := by
    rw [isPlain, Bool.and_eq_true, decide_eq_true_eq, decide_eq_true_eq]
    omega
  simp only [tellChar, same]

/-- A host is read as it is told. -/
theorem SpellsHost.opaqueHost_eq (h : SpellsHost t host) : opaqueHost t = .ok host := by
  cases h with
  | name ne_nil solid unmarked =>
    have allowed : t.any isForbidden = false :=
      List.any_eq_false.2 fun c hc => by simp [isForbidden_eq_false (solid c hc) (unmarked c hc)]
    unfold opaqueHost
    split
    · exact absurd (unmarked '[' List.mem_cons_self) (by decide)
    · rw [allowed, encode_eq_flatMap_tellChar solid]
      rfl
  | @literal v ps h =>
    have read : bracketed (v ++ [']']) = .ok (.ipv6 ps) := by
      rw [bracketed, List.getLast?_concat, if_pos rfl, List.dropLast_concat,
        Ipv6.parse?_eq_some_iff.2 h]
    exact read

/-- A host that is told is a spelling of itself: nothing in it has to be escaped. -/
theorem spellsHost_text (h : host.IsOpaque) : SpellsHost host.text host := by
  cases host with
  | name t =>
    have visible : ∀ c ∈ t, 0x20 < c.toNat ∧ c.toNat < 0x7f := by
      intro c hc
      have space : c.toNat ≠ 0x20 := by
        intro hn
        obtain rfl : c = ' ' := Char.toNat_inj.1 hn
        exact absurd (h.allowed _ hc) (by decide)
      have plain := h.plain c hc
      simp only [isPlain, Bool.and_eq_true, decide_eq_true_eq] at plain
      omega
    have same : t.flatMap tellChar = t := by
      have self : ∀ c ∈ t, tellChar c = [c] := fun c hc => if_pos (visible c hc).2
      rw [List.flatMap_congr self]
      exact List.flatMap_singleton' t
    have unmarked : ∀ c ∈ t, c ∉ "#/:<>?@[\\]^|".toList := by
      intro c hc mark
      have forbidden : "#/:<>?@[\\]^|".toList.all isForbidden = true := by decide
      have allowed := h.allowed c hc
      rw [List.all_eq_true.1 forbidden c mark] at allowed
      cases allowed
    have spelled := SpellsHost.name h.ne_nil
      (fun c hc => decide_eq_false (Nat.not_le.2 (visible c hc).1)) unmarked
    rwa [same] at spelled
  | ipv4 _ => exact h.elim
  | ipv6 ps => exact .literal (Ipv6.spells_text h)

/-! ## Characters of an authority -/

/-- A character that counts and neither ends an authority nor stands behind user information. -/
structure InAuthority (c : Char) : Prop where
  counts : isEdge c = false
  within : endsAuthority .uninterpreted c = false
  ne_at : c ≠ '@'

theorem endsAuthority_eq_false_iff :
    endsAuthority .uninterpreted c = false ↔ c ∉ ['/', '?', '#'] := by
  simp [endsAuthority, Kind.takesBackslash, and_assoc]

theorem inAuthority_of_isHexDigit (h : Numeral.isHexDigit c = true) : InAuthority c := by
  have plain := isPlain_of_isHexDigit h
  have other : ∀ {d : Char}, isForbidden d = true → c ≠ d := by
    rintro d hd rfl
    rw [isForbidden_of_isHexDigit h] at hd
    cases hd
  refine ⟨?_, ?_, other (by decide)⟩
  · have space : c.toNat ≠ 0x20 := fun hn => other (d := ' ') (by decide) (Char.toNat_inj.1 hn)
    simp only [isPlain, Bool.and_eq_true, decide_eq_true_eq] at plain
    simp only [isEdge, decide_eq_false_iff_not]
    omega
  · simp [endsAuthority_eq_false_iff, other (d := '/') (by decide), other (d := '?') (by decide),
      other (d := '#') (by decide)]

theorem SpellsHost.inAuthority (h : SpellsHost t host) : ∀ c ∈ t, InAuthority c := by
  cases h with
  | name ne_nil solid unmarked =>
    intro c hc
    have other : ∀ d ∈ "#/:<>?@[\\]^|".toList, c ≠ d := by
      rintro d hd rfl
      exact unmarked c hc hd
    refine ⟨solid c hc, ?_, other _ (by decide)⟩
    simp [endsAuthority_eq_false_iff, other '/' (by decide), other '?' (by decide),
      other '#' (by decide)]
  | literal h =>
    have mark : ∀ d ∈ ['[', ']', ':', '.'], InAuthority d := by
      simp only [List.forall_mem_cons]
      exact ⟨⟨by decide, by decide, by decide⟩, ⟨by decide, by decide, by decide⟩,
        ⟨by decide, by decide, by decide⟩, ⟨by decide, by decide, by decide⟩, List.forall_mem_nil _⟩
    refine List.forall_mem_cons.2 ⟨mark _ (by decide), List.forall_mem_append.2 ⟨fun c hc => ?_,
      List.forall_mem_singleton.2 (mark _ (by decide))⟩⟩
    rcases h.inLiteral c hc with rfl | rfl | digit
    · exact mark _ (by decide)
    · exact mark _ (by decide)
    · exact inAuthority_of_isHexDigit digit

/-! ## The ends of the parts -/

variable {cs after : List Char}

/-- User information ends at the last `@`. -/
theorem splitUserinfo_append (h : '@' ∉ after) :
    splitUserinfo (cs ++ '@' :: after) = (some cs, after) := by
  have back : ((cs ++ '@' :: after).reverse.takeWhile (· ≠ '@')).reverse = after := by
    have pos : ∀ c ∈ after.reverse, (decide (c ≠ '@')) = true := by
      intro c hc
      simp only [decide_eq_true_eq]
      rintro rfl
      exact h (List.mem_reverse.1 hc)
    rw [List.reverse_append, List.reverse_cons, List.append_assoc, List.singleton_append,
      List.takeWhile_append_of_pos pos, List.takeWhile_cons_of_neg (by simp), List.append_nil,
      List.reverse_reverse]
  have count : (cs ++ '@' :: after).length - after.length - 1 = cs.length := by
    rw [List.length_append, List.length_cons]
    omega
  rw [splitUserinfo, if_pos (by simp)]
  simp only [back, count, List.take_left]

theorem splitUserinfo_of_notMem (h : '@' ∉ after) : splitUserinfo after = (none, after) :=
  if_neg (by simpa using h)

/-- A name ends where a colon stands behind it. -/
theorem splitHost_name (h : ∀ c ∈ t, c ≠ ':' ∧ c ≠ '[') (ha : ∀ c ∈ after.head?, c = ':') :
    splitHost false (t ++ after) = (t, after) := by
  induction t with
  | nil =>
    rcases after with - | ⟨c, u⟩
    · rfl
    · obtain rfl := ha c rfl
      rfl
  | cons c t ih =>
    obtain ⟨⟨colon, bracket⟩, others⟩ := List.forall_mem_cons.1 h
    rw [List.cons_append, splitHost, if_neg (by simp [colon]), if_neg bracket, ite_self, ih others]

/-- Colons within brackets do not end a host. -/
theorem splitHost_brackets (h : ∀ c ∈ t, c ≠ '[' ∧ c ≠ ']') (ha : ∀ c ∈ after.head?, c = ':') :
    splitHost true (t ++ ']' :: after) = (t ++ [']'], after) := by
  induction t with
  | nil =>
    have rest := splitHost_name (t := []) (List.forall_mem_nil _) ha
    rw [List.nil_append] at rest
    rw [List.nil_append, splitHost, if_neg (by simp), if_neg (by decide), if_pos rfl, rest]
    rfl
  | cons c t ih =>
    obtain ⟨⟨opening, closing⟩, others⟩ := List.forall_mem_cons.1 h
    rw [List.cons_append, splitHost, if_neg (by simp), if_neg opening, if_neg closing, ih others]
    rfl

theorem SpellsHost.splitHost_append (h : SpellsHost t host) (ha : ∀ c ∈ after.head?, c = ':') :
    splitHost false (t ++ after) = (t, after) := by
  cases h with
  | name ne_nil solid unmarked =>
    refine splitHost_name (fun c hc => ⟨?_, ?_⟩) ha <;>
    · rintro rfl
      exact unmarked _ hc (by decide)
  | @literal v ps h =>
    have inside : ∀ c ∈ v, c ≠ '[' ∧ c ≠ ']' := by
      intro c hc
      rcases h.inLiteral c hc with rfl | rfl | digit
      · decide
      · decide
      · constructor <;>
        · rintro rfl
          exact absurd digit (by decide)
    rw [List.cons_append, List.append_assoc, List.singleton_append, splitHost, if_neg (by simp),
      if_pos rfl, splitHost_brackets inside ha]

theorem SpellsHost.ne_nil (h : SpellsHost t host) : t ≠ [] := by
  cases h with
  | name ne_nil solid unmarked => exact ne_nil
  | literal h => exact List.cons_ne_nil _ _

/-! ## Ports -/

/-- A digit cannot be taken for the end of a port. -/
theorem unmarked_of_isDigit (h : c.isDigit = true) :
    isEdge c = false ∧ c ∉ ['/', '?', '#', '@'] := by
  have within := inAuthority_of_isHexDigit (Numeral.isHexDigit_iff.2 ⟨_, if_pos h⟩)
  have ends := endsAuthority_eq_false_iff.1 within.within
  have other := within.ne_at
  refine ⟨within.counts, ?_⟩
  simp only [List.mem_cons, List.not_mem_nil, or_false, not_or] at ends ⊢
  exact ⟨ends.1, ends.2.1, ends.2.2, other⟩

/-- Digits are a port, if they are not too large; no digits are none. -/
theorem readPort_digits (h : ∀ c ∈ cs, c.isDigit = true) :
    readPort cs = if 65535 < Nat.ofDigitChars 10 cs 0 then .error .port
      else .ok (if cs.isEmpty then none else some (Nat.ofDigitChars 10 cs 0), []) := by
  simp only [readPort, List.takeWhile_eq_self_iff.2 h, List.dropWhile_eq_nil_iff.2 h]

/-- Other characters are no port. -/
theorem readPort_of_other (h : ∃ c ∈ cs, c.isDigit = false) (hb : '\\' ∉ cs) :
    readPort cs = .error .port := by
  simp only [readPort]
  split
  · rfl
  · split
    · rename_i all
      obtain ⟨c, hc, other⟩ := h
      rw [List.dropWhile_eq_nil_iff.1 all c hc] at other
      cases other
    · rename_i u hu
      exact absurd ((List.dropWhile_sublist _).mem (hu ▸ List.mem_cons_self)) hb
    · rfl

/-! ## URLs -/

theorem cleaned_of_solid {cs : List Char} (h : ∀ c ∈ cs, isEdge c = false) : cleaned cs = cs := by
  have kept : ∀ ds : List Char, (∀ c ∈ ds, isEdge c = false) → ds.dropWhile isEdge = ds := by
    intro ds hd
    rcases ds with - | ⟨d, ds⟩
    · rfl
    · rw [List.dropWhile_cons_of_neg (by simp [hd d List.mem_cons_self])]
  have solid : cs.filter (fun c => !isIgnored c) = cs :=
    List.filter_eq_self.2 fun c hc => by simp [isIgnored_of_isEdge_eq_false (h c hc)]
  rw [cleaned, kept cs h, kept cs.reverse fun c hc => h c (List.mem_reverse.1 hc),
    List.reverse_reverse, solid]

/-- A URL part by part, as it is spelled. -/
structure Spelling where
  scheme : List Char
  /-- What stands before an `@`, where there is one. -/
  userinfo : Option (List Char)
  host : List Char
  /-- What stands behind a colon, where there is one. -/
  port : Option (List Char)
  /-- Path, query and fragment. -/
  rest : List Char

namespace Spelling

/-- The user information and its `@`. -/
def userText (u : Spelling) : List Char := (u.userinfo.map (· ++ ['@'])).getD []

/-- The port and its colon. -/
def portText (u : Spelling) : List Char := (u.port.map (':' :: ·)).getD []

/-- The URL as it is spelled. -/
def text (u : Spelling) : List Char :=
  u.scheme ++ ':' :: '/' :: '/' :: (u.userText ++ u.host ++ u.portText ++ u.rest)

/-- The port is of characters that cannot be taken for its end. -/
def HasPlainPort (u : Spelling) : Prop :=
  ∀ cs ∈ u.port, ∀ c ∈ cs, isEdge c = false ∧ c ∉ ['/', '?', '#', '@']

/-- Each part is spelled so that it ends where it should; the scheme and the host are given. -/
structure IsSpelled (u : Spelling) (scheme : List Char) (host : Host) : Prop where
  name : IsSchemeName u.scheme
  /-- The scheme may be spelled in any letter case. -/
  lower : u.scheme.map Char.toLower = scheme
  kind : Kind.ofScheme scheme = .uninterpreted
  user : ∀ cs ∈ u.userinfo, ∀ c ∈ cs, isEdge c = false ∧ c ∉ ['/', '?', '#']
  host : SpellsHost u.host host
  port : u.HasPlainPort
  /-- The rest begins with a mark that ends the authority. -/
  mark : ∀ c ∈ u.rest.head?, c ∈ ['/', '?', '#']
  rest : ∀ c ∈ u.rest, isEdge c = false

variable {u : Spelling} {scheme : List Char}

namespace IsSpelled

theorem inAuthority_portText (h : u.IsSpelled scheme host) : ∀ c ∈ u.portText, InAuthority c := by
  cases hp : u.port with
  | none => simp [portText, hp]
  | some cs =>
    have text : u.portText = ':' :: cs := by simp [portText, hp]
    rw [text]
    refine List.forall_mem_cons.2 ⟨⟨by decide, by decide, by decide⟩, fun c hc => ?_⟩
    obtain ⟨solid, unmarked⟩ := h.port cs hp c hc
    simp only [List.mem_cons, List.not_mem_nil, or_false, not_or] at unmarked
    refine ⟨solid, endsAuthority_eq_false_iff.2 ?_, unmarked.2.2.2⟩
    simp [unmarked]

theorem inAuthority_hostport (h : u.IsSpelled scheme host) :
    ∀ c ∈ u.host ++ u.portText, InAuthority c :=
  List.forall_mem_append.2 ⟨h.host.inAuthority, h.inAuthority_portText⟩

theorem userText_within (h : u.IsSpelled scheme host) :
    ∀ c ∈ u.userText, isEdge c = false ∧ endsAuthority .uninterpreted c = false := by
  cases hu : u.userinfo with
  | none => simp [userText, hu]
  | some cs =>
    have text : u.userText = cs ++ ['@'] := by simp [userText, hu]
    rw [text]
    refine List.forall_mem_append.2 ⟨fun c hc => ?_, List.forall_mem_singleton.2 (by decide)⟩
    obtain ⟨solid, unmarked⟩ := h.user cs hu c hc
    exact ⟨solid, endsAuthority_eq_false_iff.2 unmarked⟩

theorem cleaned_text (h : u.IsSpelled scheme host) : cleaned u.text = u.text := by
  refine cleaned_of_solid ?_
  rw [text, List.append_assoc, List.append_assoc, ← List.append_assoc u.host]
  simp only [List.forall_mem_append, List.forall_mem_cons]
  refine ⟨fun c hc => isEdge_eq_false_of_isSchemeChar (h.name.chars c hc), by decide, by decide,
    by decide, fun c hc => (h.userText_within c hc).1, ?_, h.rest⟩
  exact ⟨fun c hc => (h.host.inAuthority c hc).counts,
    fun c hc => (h.inAuthority_portText c hc).counts⟩

/-- The authority ends where the rest begins. -/
theorem split_authority (h : u.IsSpelled scheme host) :
    (u.userText ++ u.host ++ u.portText ++ u.rest).takeWhile
        (fun c => !endsAuthority .uninterpreted c) = u.userText ++ u.host ++ u.portText ∧
      (u.userText ++ u.host ++ u.portText ++ u.rest).dropWhile
        (fun c => !endsAuthority .uninterpreted c) = u.rest := by
  have within : ∀ c ∈ u.userText ++ u.host ++ u.portText,
      (!endsAuthority .uninterpreted c) = true := by
    intro c hc
    rw [List.append_assoc, List.mem_append] at hc
    rw [Bool.not_eq_true']
    exact hc.elim (fun hc => (h.userText_within c hc).2)
      fun hc => (h.inAuthority_hostport c hc).within
  rw [List.takeWhile_append_of_pos within, List.dropWhile_append_of_pos within]
  rcases hr : u.rest with - | ⟨c, v⟩
  · simp
  · have ends : endsAuthority .uninterpreted c = true := by
      by_contra hc
      exact endsAuthority_eq_false_iff.1 (Bool.not_eq_true _ ▸ hc) (h.mark c (by rw [hr]; rfl))
    rw [List.takeWhile_cons_of_neg (by simp [ends]), List.dropWhile_cons_of_neg (by simp [ends]),
      List.append_nil]
    exact ⟨rfl, rfl⟩

theorem splitUserinfo_eq (h : u.IsSpelled scheme host) :
    splitUserinfo (u.userText ++ u.host ++ u.portText) = (u.userinfo, u.host ++ u.portText) := by
  have no : '@' ∉ u.host ++ u.portText := fun hc => (h.inAuthority_hostport _ hc).ne_at rfl
  rw [List.append_assoc]
  cases hu : u.userinfo with
  | none =>
    have text : u.userText = [] := by simp [userText, hu]
    rw [text, List.nil_append, splitUserinfo_of_notMem no]
  | some cs =>
    have text : u.userText = cs ++ ['@'] := by simp [userText, hu]
    rw [text, List.append_assoc, List.singleton_append, splitUserinfo_append no]

theorem hostAndPort_eq (h : u.IsSpelled scheme host) :
    hostAndPort .uninterpreted (u.host ++ u.portText) =
      (portAfterHost u.portText).map fun p => (some host, p.1, p.2) := by
  have colon : ∀ c ∈ u.portText.head?, c = ':' := by
    cases hp : u.port <;> simp [portText, hp]
  have some : u.host.isEmpty = false := by simpa using h.host.ne_nil
  simp only [hostAndPort, h.host.splitHost_append colon, some, if_true, h.host.opaqueHost_eq]
  cases portAfterHost u.portText <;> rfl

end IsSpelled

theorem portAfterHost_of_none (h : u.port = none) : portAfterHost u.portText = .ok (none, []) := by
  rw [portText, h]
  rfl

theorem portAfterHost_of_some {cs : List Char} (h : u.port = some cs) :
    portAfterHost u.portText = readPort cs := by
  rw [portText, h]
  rfl

/-- **A URL is read part by part**, as it is spelled: only the port can be at fault. -/
theorem parse_text (h : u.IsSpelled scheme host) :
    parse u.text = (portAfterHost u.portText).map fun p =>
      ⟨scheme, u.userinfo, some host, p.1, p.2 ++ u.rest⟩ := by
  obtain ⟨authority, rest⟩ := h.split_authority
  have more : u.userText ++ u.host ++ u.portText ≠ ['@'] := by
    intro he
    have host := h.splitUserinfo_eq
    rw [he] at host
    have none : u.host ++ u.portText = [] := (Prod.mk.inj host).2.symm
    exact h.host.ne_nil (List.append_eq_nil_iff.1 none).1
  rw [parse, h.cleaned_text, text, splitScheme?_append h.name, h.lower]
  simp only [h.kind, authorityOnward, authority, rest, h.splitUserinfo_eq, h.hostAndPort_eq]
  rw [if_neg (by rw [decide_eq_false more, Bool.false_and]; exact Bool.false_ne_true)]
  cases portAfterHost u.portText <;> rfl

end Spelling

end Gatekeeper.Url
