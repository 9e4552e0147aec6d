import Endpoint.Main
import Endpoint.Network.Resolver
import Endpoint.Proofs.HostPort
import Endpoint.Proofs.KeptCandidates
import Endpoint.Proofs.Openings
import Endpoint.Proofs.Scan
import Endpoint.Proofs.SpecGrammar
import Endpoint.Proofs.UrlSafety
import Endpoint.Session.Output
import Endpoint.Session.Ports
import Endpoint.Session.Settings
import Endpoint.Session.Sockets
import Endpoint.Proofs.LiteralGrammar
import Endpoint.Proofs.SettingsFile
import Endpoint.Proofs.Precedence
import Endpoint.Proofs.KeptSettings
import Endpoint.Proofs.SameHosts
import Endpoint.Proofs.Probing
import Endpoint.Proofs.ExitStatus
import Endpoint.Proofs.FirstPort
import Endpoint.Proofs.BareHosts
import Endpoint.Proofs.HostnameGrammar
import Endpoint.Proofs.CanonicalNumeral
import Endpoint.Proofs.ShortestText
import Endpoint.Proofs.HostPortGrammar
import Endpoint.Proofs.HostClasses
import Endpoint.Proofs.LogSetup
import Endpoint.Proofs.Verbosity
import Endpoint.Proofs.PortListing
import Endpoint.Proofs.Binding
import Endpoint.Proofs.Trace
