import Gatekeeper.CommandLine.Process
import Gatekeeper.Credential.Encoding
import Gatekeeper.Main
import Gatekeeper.Proofs.CommandLine.Agreement
import Gatekeeper.Proofs.CommandLine.Encryption
import Gatekeeper.Proofs.CommandLine.Events
import Gatekeeper.Proofs.CommandLine.InEffect
import Gatekeeper.Proofs.CommandLine.InputPassword
import Gatekeeper.Proofs.CommandLine.JsonOutput
import Gatekeeper.Proofs.CommandLine.Secrecy
import Gatekeeper.Proofs.CommandLine.Style
import Gatekeeper.Proofs.CommandLine.Terminal
import Gatekeeper.Proofs.CommandLine.Upgrade
import Gatekeeper.Proofs.CommandLine.Usable
import Gatekeeper.Proofs.Credential.Query
import Gatekeeper.Proofs.Directory.Answer
import Gatekeeper.Proofs.Settings.ServerUrl
import Gatekeeper.Proofs.Settings.Variables
import Gatekeeper.Proofs.Toml.Steps
