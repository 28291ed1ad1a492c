import HostFacts.Dictionary
import HostFacts.MacVersion
import HostFacts.Text.Blank
import HostFacts.Text.Case
import HostFacts.Text.Lines
import HostFacts.Text.Quoted
import HostFacts.Text.Utf8
import HostFacts.Decimal.Shortest
import HostFacts.Json.Token
import HostFacts.Json.Reader
import HostFacts.Json.Writer
import HostFacts.Json.Names
import HostFacts.Settings.Check
import HostFacts.Settings.Loading
import HostFacts.OsRelease
import HostFacts.Snapshot.Facts
import HostFacts.Snapshot.Detection
import HostFacts.Once.Threads
import HostFacts.Probes.Mappings
import HostFacts.Session.Threads
import HostFacts.Process
import HostFacts.Command.Run
import HostFacts.Main
import HostFacts.Proofs.Version.Order
import HostFacts.Proofs.Once.Linearization
import HostFacts.Proofs.Session.Agreement
import HostFacts.Proofs.Probes.Degrading
import HostFacts.Proofs.Settings.Sources
import HostFacts.Proofs.Settings.RoundTrip
import HostFacts.Proofs.Settings.Rejected
import HostFacts.Proofs.Command.Agreement
import HostFacts.Proofs.Command.SettingsPlace
import HostFacts.Proofs.Command.Layouts
import HostFacts.Proofs.Snapshot.Ladders
import HostFacts.Proofs.OsRelease.LastAssignment
import HostFacts.Proofs.Command.GateRuns
import HostFacts.Proofs.Snapshot.Overriding
import HostFacts.Proofs.Snapshot.Properties
import HostFacts.Proofs.Probes.NoLook
import HostFacts.Proofs.MacVersion.Codes
import HostFacts.Proofs.MacVersion.Dotted
import HostFacts.Proofs.Json.Renaming
import HostFacts.Proofs.Snapshot.Families
import HostFacts.Proofs.Snapshot.Builds
