import Gatekeeper.Url.Ipv4
import Gatekeeper.Url.Ipv6
import Gatekeeper.Url.Percent
/-!
# URLs

A URL taken apart: `scheme://userinfo@host:port` and what follows the authority.

* `parse` reads a text as a browser would: controls and spaces around it and tabs and line ends
  anywhere in it do not count, and the scheme is folded to lower case.
* How the rest is read depends on the scheme (`Kind`). The host of an uninterpreted scheme such as
  `ldap` keeps its letter case, and its control and non-ASCII characters are percent-encoded; the
  host of a web scheme is a domain name or an IPv4 address. An address in brackets is IPv6 under
  every scheme and is normalised.
* A text that is no URL has a `Fault`. Those of the host come before those of the port.

User information, path, query and fragment are kept as they are written. Domain names are not put
into their international form.
-/

namespace Gatekeeper.Url

/-- Why a text is no URL. -/
inductive Fault
  /-- A host is required and the text gives none. -/
  | emptyHost
  /-- A character of the host may not stand in a domain name. -/
  | domainName
  /-- The port is no number, or above 65535. -/
  | port
  /-- The host ends in a number and is no IPv4 address. -/
  | ipv4
  /-- The host is in brackets and is no IPv6 address. -/
  | ipv6
  /-- A character of an uninterpreted host has to be percent-encoded. -/
  | hostCharacter
  /-- The text does not begin with a scheme. -/
  | noScheme
  deriving DecidableEq, Repr

/-- The fault in words. -/
def Fault.message : Fault → String
  | .emptyHost => "empty host"
  | .domainName => "invalid international domain name"
  | .port => "invalid port number"
  | .ipv4 => "invalid IPv4 address"
  | .ipv6 => "invalid IPv6 address"
  | .hostCharacter => "invalid domain character"
  | .noScheme => "relative URL without a base"

/-- How the part after the scheme is read. -/
inductive Kind
  /-- A web scheme: an authority follows, whatever the number of slashes. -/
  | web
  /-- A file: the host may be missing. -/
  | file
  /-- Any other scheme: an authority follows after two slashes only. -/
  | uninterpreted
  deriving DecidableEq, Repr

/-- The kind of a scheme. -/
def Kind.ofScheme (scheme : List Char) : Kind :=
  if scheme = "file".toList then .file
  else if ["http", "https", "ws", "wss", "ftp"].any (·.toList = scheme) then .web
  else .uninterpreted

/-- Whether a backslash separates as a slash does. -/
def Kind.takesBackslash : Kind → Bool
  | .uninterpreted => false
  | _ => true

/-- A host. -/
inductive Host
  | name (text : List Char)
  | ipv4 (address : Nat)
  | ipv6 (pieces : List Nat)
  deriving DecidableEq, Repr

/-- The host as it is written in a URL. -/
def Host.text : Host → List Char
  | .name t => t
  | .ipv4 a => Ipv4.text a
  | .ipv6 ps => ['['] ++ Ipv6.text ps ++ [']']

end Url

/-- A URL taken apart. -/
structure Url where
  /-- The scheme, in lower case. -/
  scheme : List Char
  /-- What stands before the last `@` of the authority. -/
  userinfo : Option (List Char)
  /-- The host, when there is one and it is not empty. -/
  host : Option Url.Host
  /-- The port, when one is written. -/
  port : Option Nat
  /-- Path, query and fragment. -/
  rest : List Char
  deriving DecidableEq, Repr

namespace Url

/-! ## Splitting -/

/-- A control character or a space, which does not count at either end of a URL. -/
def isEdge (c : Char) : Bool := c.toNat ≤ 0x20

/-- A tab or line end, which does not count anywhere in a URL. -/
def isIgnored (c : Char) : Bool := c = '\t' || c = '\n' || c = '\r'

/-- The characters that count. -/
def cleaned (cs : List Char) : List Char :=
  ((cs.dropWhile isEdge).reverse.dropWhile isEdge).reverse.filter fun c => !isIgnored c

/-- A character of a scheme after its first letter. -/
def isSchemeChar (c : Char) : Bool := c.isAlphanum || c = '+' || c = '-' || c = '.'

/-- The scheme in lower case and what follows its colon. -/
def splitScheme? (cs : List Char) : Option (List Char × List Char) :=
  match cs.takeWhile isSchemeChar, cs.dropWhile isSchemeChar with
  | c :: name, ':' :: t => if c.isAlpha then some ((c :: name).map Char.toLower, t) else none
  | _, _ => none

/-- The character ends an authority. -/
def endsAuthority (k : Kind) (c : Char) : Bool :=
  c = '/' || c = '?' || c = '#' || (c = '\\' && k.takesBackslash)

/-- What stands before and after the last `@`. -/
def splitUserinfo (authority : List Char) : Option (List Char) × List Char :=
  if authority.contains '@' then
    let host := (authority.reverse.takeWhile (· ≠ '@')).reverse
    (some (authority.take (authority.length - host.length - 1)), host)
  else (none, authority)

/-- The user information names a user or gives a password: it is more than a lone colon. -/
def namesUser : Option (List Char) → Bool
  | some cs => cs ≠ [] && cs ≠ [':']
  | none => false

/-- The host and what follows it, from the first colon outside brackets on. -/
def splitHost (inBrackets : Bool) : List Char → List Char × List Char
  | [] => ([], [])
  | c :: t =>
    if c = ':' && !inBrackets then ([], c :: t)
    else
      let (host, rest) :=
        splitHost (if c = '[' then true else if c = ']' then false else inBrackets) t
      (c :: host, rest)

/-! ## Hosts -/

/-- The character may not stand in the host of an uninterpreted scheme. -/
def isForbidden (c : Char) : Bool :=
  "\x00\t\n\r #/:<>?@[\\]^|".toList.contains c

/-- The character stands for itself in such a host. -/
def isPlain (c : Char) : Bool := 0x20 ≤ c.toNat && c.toNat ≤ 0x7e

/-- An address in brackets, the opening one given apart. -/
def bracketed (cs : List Char) : Except Fault Host :=
  if cs.getLast? = some ']' then
    match Ipv6.parse? cs.dropLast with
    | some ps => .ok (.ipv6 ps)
    | none => .error .ipv6
  else .error .ipv6

/-- The host of an uninterpreted scheme. -/
def opaqueHost (cs : List Char) : Except Fault Host :=
  match cs with
  | '[' :: t => bracketed t
  | _ =>
    if cs.any isForbidden then .error .hostCharacter
    else .ok (.name (Percent.encode isPlain cs))

/-- The character may not stand in a domain name. -/
def isForbiddenInDomain (c : Char) : Bool :=
  c.toNat ≤ 0x20 || c.toNat = 0x7f || "%#/:<>?@[\\]^|".toList.contains c

/-- The host of a web scheme. -/
def domainHost (cs : List Char) : Except Fault Host :=
  match cs with
  | '[' :: t => bracketed t
  | _ =>
    match Utf8.decode? (Percent.decode (Utf8.encode cs)) with
    | none => .error .domainName
    | some decoded =>
      let domain := decoded.map Char.toLower
      if domain.any isForbiddenInDomain then .error .domainName
      else if domain.isEmpty then .error .emptyHost
      else if Ipv4.isNumeric domain then
        match Ipv4.parse? domain with
        | some a => .ok (.ipv4 a)
        | none => .error .ipv4
      else .ok (.name domain)

/-! ## Authorities -/

/-- The port after the colon, and what follows it: a backslash ends the port under every scheme. -/
def readPort (cs : List Char) : Except Fault (Option Nat × List Char) :=
  let ds := cs.takeWhile Char.isDigit
  let value := Nat.ofDigitChars 10 ds 0
  if 65535 < value then .error .port
  else
    match cs.dropWhile Char.isDigit with
    | [] => .ok (if ds.isEmpty then none else some value, [])
    | '\\' :: t => .ok (if ds.isEmpty then none else some value, '\\' :: t)
    | _ => .error .port

/-- The port of an authority whose host is read, from the colon on, and what follows it. -/
def portAfterHost : List Char → Except Fault (Option Nat × List Char)
  | ':' :: cs => readPort cs
  | cs => .ok (none, cs)

/-- Host and port of an authority without its user information. -/
def hostAndPort (k : Kind) (cs : List Char) :
    Except Fault (Option Host × Option Nat × List Char) := do
  let (host, after) := splitHost false cs
  if host.isEmpty then
    if k = .web || after.head? = some ':' then .error .emptyHost
    else .ok (none, none, after)
  else
    let host ← if k = .uninterpreted then opaqueHost host else domainHost host
    let (port, after) ← portAfterHost after
    .ok (some host, port, after)

/-- What follows the slashes after the scheme. -/
def authorityOnward (scheme : List Char) (k : Kind) (cs : List Char) : Except Fault Url := do
  let authority := cs.takeWhile fun c => !endsAuthority k c
  let rest := cs.dropWhile fun c => !endsAuthority k c
  let (userinfo, hostport) := splitUserinfo authority
  if authority = ['@'] && !rest.isEmpty then .error .emptyHost
  else
    let (host, port, after) ← hostAndPort k hostport
    if host.isNone && namesUser userinfo then .error .emptyHost
    else .ok ⟨scheme, userinfo, host, port, after ++ rest⟩

/-! ## Files -/

/-- A letter and a colon or bar, which names a drive and no host. -/
def isDriveLetter : List Char → Bool
  | [c, m] => c.isAlpha && (m = ':' || m = '|')
  | _ => false

/-- A slash of either direction. -/
def isSlash (c : Char) : Bool := c = '/' || c = '\\'

/-- What follows the scheme of a file. -/
def fileOnward (scheme cs : List Char) : Except Fault Url :=
  match cs with
  | a :: b :: t =>
    if isSlash a && isSlash b then do
      let host := t.takeWhile fun c => !endsAuthority .file c
      let rest := t.dropWhile fun c => !endsAuthority .file c
      if host.isEmpty then .ok ⟨scheme, none, none, none, rest⟩
      else if isDriveLetter host then .ok ⟨scheme, none, none, none, t⟩
      else .ok ⟨scheme, none, some (← domainHost host), none, rest⟩
    else .ok ⟨scheme, none, none, none, cs⟩
  | _ => .ok ⟨scheme, none, none, none, cs⟩

/-! ## Reading -/

/-- The URL that a text spells. -/
def parse (cs : List Char) : Except Fault Url :=
  match splitScheme? (cleaned cs) with
  | none => .error .noScheme
  | some (scheme, t) =>
    match Kind.ofScheme scheme, t with
    | .web, t => authorityOnward scheme .web (t.dropWhile isSlash)
    | .file, t => fileOnward scheme t
    | .uninterpreted, '/' :: '/' :: t => authorityOnward scheme .uninterpreted t
    | .uninterpreted, t => .ok ⟨scheme, none, none, none, t⟩

end Url

end Gatekeeper
