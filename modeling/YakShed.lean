import YakShed.Store.ExactlyOnce
import YakShed.Store.Digest
import YakShed.Store.Creation
import YakShed.Store.Payload
import YakShed.Store.Traversal
import YakShed.Store.Missing
import YakShed.Store.Migrations
import YakShed.Desktop.Snapshots
import YakShed.Desktop.Selection
import YakShed.Supervisor.Approvals
import YakShed.Supervisor.Publications
import YakShed.Supervisor.Representation
import YakShed.Supervisor.Terminal
import YakShed.Supervisor.Handshakes
import YakShed.Codex.Delivery
import YakShed.Config.Persistence
import YakShed.Config.Startup
import YakShed.Secrets.Dispatch
import YakShed.Secrets.LastWrite
import YakShed.Secrets.LocalOutcomes
import YakShed.Codex.ServerRequests
import YakShed.Codex.RunLifecycle
import YakShed.Codex.Login
import YakShed.Codex.Redaction
import YakShed.Codex.Framing
import YakShed.Mock.Delivery
import YakShed.Store.ArtifactSafety
import YakShed.Desktop.CredentialWrites
