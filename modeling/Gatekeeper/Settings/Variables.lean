import Gatekeeper.Numeral.Digits
import Gatekeeper.Settings.Basic
/-!
# Settings from variables

Each setting has a variable of its own. A variable that is not set leaves the default, and so does
a timeout that is no number of 64 bits; any text that is neither `true` nor `1` turns STARTTLS off.
-/

namespace Gatekeeper.Settings

/-- The value of each variable that is set. -/
abbrev Lookup := String → Option String

namespace Variable

/-- The variable of the server URL. -/
def serverUrl : String := "BINDGUARD_SERVER_URL"
/-- The variable of the name to bind as. -/
def bindDn : String := "BINDGUARD_BIND_DN"
/-- The variable of the STARTTLS switch. -/
def startTls : String := "BINDGUARD_START_TLS"
/-- The variable of the timeout. -/
def timeoutSeconds : String := "BINDGUARD_TIMEOUT_SECONDS"
/-- The variable of the log level. -/
def logLevel : String := "BINDGUARD_LOG_LEVEL"
/-- The variable of the log format. -/
def logFormat : String := "BINDGUARD_LOG_FORMAT"

end Variable

/-- The text of a switch that turns it on. -/
def isOn (s : String) : Bool := s = "true" || s = "1"

/-- The settings that the variables give. -/
def ofVariables (lookup : Lookup) : Settings where
  ldap := {
    serverUrl := (lookup Variable.serverUrl).getD ({} : Ldap).serverUrl
    bindDn := (lookup Variable.bindDn).getD ({} : Ldap).bindDn
    startTls := ((lookup Variable.startTls).map isOn).getD ({} : Ldap).startTls
    timeoutSeconds :=
      ((lookup Variable.timeoutSeconds).bind Numeral.readUInt64?).getD ({} : Ldap).timeoutSeconds }
  logging := {
    level := (lookup Variable.logLevel).getD ({} : Logging).level
    format := (lookup Variable.logFormat).getD ({} : Logging).format }

end Gatekeeper.Settings
