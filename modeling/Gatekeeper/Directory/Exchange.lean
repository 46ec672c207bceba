import Gatekeeper.Failure
import Gatekeeper.SystemError
/-!
# The exchange with a directory

A network with at most one server on it, which takes one connection and answers the first request
in a set way. Every other connection is refused.

* `Session` is the way a connection is to be used: plain, plain with an upgrade before the bind, or
  encrypted from the start. The server on this network speaks plain text only, so a session that
  has to be encrypted ends before a bind is sent.
* `bind` opens a connection, sends the request that the session begins with, and turns the answer
  into a result. What the server received is kept in the network.

Certificates and handshakes are no part of this. Two things stand in for what a client library would
tell where one is needed: the words of a session that cannot be encrypted (`notEncrypted`), and the
result where the server is silent in an encrypted session or when an upgrade is asked for (`bind`,
`upgradeResult`).
-/

namespace Gatekeeper.Directory

/-! ## Result codes -/

/-- The codes that have a name. -/
def resultNames : List (UInt32 × String) :=
  [(0, "success"), (1, "operationsError"), (2, "protocolError"), (3, "timeLimitExceeded"),
    (4, "sizeLimitExceeded"), (5, "compareFalse"), (6, "compareTrue"),
    (7, "authMethodNotSupported"), (8, "strongerAuthRequired"), (10, "referral"),
    (11, "adminLimitExceeded"), (12, "unavailableCriticalExtension"),
    (13, "confidentialityRequired"), (14, "saslBindInProgress"), (16, "noSuchAttribute"),
    (17, "undefinedAttributeType"), (18, "inappropriateMatching"), (19, "constraintViolation"),
    (20, "attributeOrValueExists"), (21, "invalidAttributeSyntax"), (32, "noSuchObject"),
    (33, "aliasProblem"), (34, "invalidDNSyntax"), (36, "aliasDereferencingProblem"),
    (48, "inappropriateAuthentication"), (49, "invalidCredentials"),
    (50, "insufficientAccessRights"), (51, "busy"), (52, "unavailable"),
    (53, "unwillingToPerform"), (54, "loopDetect"), (64, "namingViolation"),
    (65, "objectClassViolation"), (66, "notAllowedOnNonLeaf"), (67, "notAllowedOnRDN"),
    (68, "entryAlreadyExists"), (69, "objectClassModsProhibited"), (71, "affectsMultipleDSAs"),
    (80, "other"), (88, "abandoned"), (122, "assertionFailed")]

/-- The name of a result code. -/
def resultName (code : UInt32) : String :=
  ((resultNames.find? (·.1 = code)).map (·.2)).getD "unknown"

/-! ## Servers and requests -/

/-- How the server treats the first request. -/
inductive Reply
  /-- It answers with a result code, the part of the name that it matched, and a text. -/
  | answers (code : UInt32) (matched text : String)
  /-- It closes the connection. -/
  | closes
  /-- It never answers. -/
  | silent
  /-- It does not even take the connection. -/
  | refuses
  deriving DecidableEq, Repr

/-- A request as the server receives it. -/
inductive Request
  /-- A simple bind. -/
  | simpleBind (version : Nat) (bindDn password : String)
  /-- An extended operation. -/
  | extended (oid : String)
  deriving DecidableEq, Repr

/-- The version of the protocol that binds are made with. -/
def protocolVersion : Nat := 3

/-- The operation that upgrades a plain connection. -/
def startTlsOid : String := "1.3.6.1.4.1.1466.20037"

/-- The network: its server while its one connection is free, and what the server received. -/
structure Network where
  server : Option Reply
  request : Option Request := none
  deriving DecidableEq, Repr

/-- How a connection is to be used. -/
inductive Session
  | plain
  | upgraded
  | encrypted
  deriving DecidableEq, Repr

/-- The failure of a connection that nobody accepts. -/
def refused : Failure :=
  .connection s!"I/O error: {SystemError.describe SystemError.connectionRefused}"

/-- The failure of a session that cannot be encrypted. -/
def notEncrypted : Failure := .connection "TLS session could not be established"

/-- The failure of a connection that ends while an answer is due. -/
def channelClosed : String := "result recv error: channel closed"

/-- The words for an answer that refuses the upgrade. -/
def upgradeRefusal (code : UInt32) (matched text : String) : String :=
  s!"LDAP operation result: rc={code} ({resultName code}), dn: \"{matched}\", text: \"{text}\""

/-- The result of an upgrade, where the server does not answer within `timeout` seconds the
timeout. An upgrade that the server agrees to needs an encrypted session. -/
def upgradeResult (timeout : UInt64) : Reply → Except Failure Unit
  | .answers code matched text =>
    if code = 0 then .error notEncrypted
    else .error (.connection (upgradeRefusal code matched text))
  | .closes => .error (.connection channelClosed)
  | .silent => .error (.timeout timeout)
  | .refuses => .error refused

/-- The result of a bind. -/
def bindResult (timeout : UInt64) : Reply → Except Failure Unit
  | .answers code _ text => if code = 0 then .ok () else .error (.ofResultCode code text)
  | .closes => .error (.connection s!"Bind request failed: {channelClosed}")
  | .silent => .error (.timeout timeout)
  | .refuses => .error refused

/-- Opens a connection and binds over it. -/
def bind (session : Session) (timeout : UInt64) (bindDn password : String) (net : Network) :
    Except Failure Unit × Network :=
  match net.server with
  | none | some .refuses => (.error refused, net)
  | some reply =>
    match session with
    | .plain =>
      (bindResult timeout reply,
        ⟨none, some (.simpleBind protocolVersion bindDn password)⟩)
    | .upgraded => (upgradeResult timeout reply, ⟨none, some (.extended startTlsOid)⟩)
    | .encrypted => (.error notEncrypted, ⟨none, none⟩)

end Gatekeeper.Directory
