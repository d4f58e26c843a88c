import VolumeTunnel.Certificate
import VolumeTunnel.ClaimPair
import VolumeTunnel.Json.Printer
import VolumeTunnel.Json.Reader
import VolumeTunnel.Session
import VolumeTunnel.Settings
import VolumeTunnel.Proofs.Cluster.Keyed
import VolumeTunnel.Proofs.Script.Run
import VolumeTunnel.Proofs.Tunnel.Interleaving
import VolumeTunnel.Proofs.Tunnel.OverConnection
import VolumeTunnel.Proofs.Tunnel.SharedPair
import VolumeTunnel.Proofs.Base64
import VolumeTunnel.Proofs.Text.Numeral
import VolumeTunnel.Proofs.Tunnel.PodFiles
import VolumeTunnel.Proofs.Tunnel.Independence
import VolumeTunnel.Proofs.Cluster.Journal
import VolumeTunnel.Proofs.Script.Pool
import VolumeTunnel.Proofs.Cluster.Refinement
import VolumeTunnel.Proofs.Cluster.Lifecycle
import VolumeTunnel.Proofs.Logging.History
import VolumeTunnel.Proofs.Tunnel.Reporting
import VolumeTunnel.Proofs.Cluster.Blindness
import VolumeTunnel.Proofs.Tunnel.Password
import VolumeTunnel.Proofs.Tunnel.Secrecy
import VolumeTunnel.Proofs.Yaml.Ascii
import VolumeTunnel.Proofs.Yaml.Quoted
import VolumeTunnel.Proofs.Yaml.Lines
import VolumeTunnel.Proofs.Yaml.Tokens
import VolumeTunnel.Proofs.Yaml.Nodes
import VolumeTunnel.Proofs.Yaml.Building
import VolumeTunnel.Proofs.Settings.File
import VolumeTunnel.Proofs.Tunnel.ConfigSettings
import VolumeTunnel.Proofs.Tunnel.Verification
import VolumeTunnel.Proofs.Json.RoundTrip
import VolumeTunnel.Proofs.Text.Utf8
import VolumeTunnel.Proofs.Transfer.Readiness
import VolumeTunnel.Proofs.Cluster.StatusReason
import VolumeTunnel.Proofs.Transfer.Selection
import VolumeTunnel.Proofs.Tunnel.StoredPair
import VolumeTunnel.Proofs.Logging.Handlers
import VolumeTunnel.Proofs.Settings.OptionsMapping
import VolumeTunnel.Proofs.Cluster.Conflict
import VolumeTunnel.Proofs.Settings.Acceptance
import VolumeTunnel.Proofs.Transfer.Registration
import VolumeTunnel.Proofs.Transfer.ClaimPairs
import VolumeTunnel.Proofs.Failure.Shared
import VolumeTunnel.Proofs.Settings.Credentials
