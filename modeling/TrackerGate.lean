import TrackerGate.Access
import TrackerGate.Crypto.Base64Url
import TrackerGate.Crypto.Sha256
import TrackerGate.Database.Basic
import TrackerGate.Database.Location
import TrackerGate.Database.Revision
import TrackerGate.Database.Rows
import TrackerGate.Database.Startup
import TrackerGate.Database.Statement
import TrackerGate.Decimal
import TrackerGate.Directory
import TrackerGate.Entity
import TrackerGate.Environment.Port
import TrackerGate.Environment.Tokens
import TrackerGate.Event
import TrackerGate.Failure
import TrackerGate.Gate.Stage
import TrackerGate.Http.MediaType
import TrackerGate.Http.Message
import TrackerGate.Http.Uri
import TrackerGate.IdMap
import TrackerGate.Json.Basic
import TrackerGate.Json.Literal
import TrackerGate.Json.Numeral
import TrackerGate.Json.Reach
import TrackerGate.Json.Reader
import TrackerGate.Json.Record
import TrackerGate.Json.RoundTrip
import TrackerGate.Octets
import TrackerGate.Permission.Capture
import TrackerGate.Permission.Snapshot
import TrackerGate.Readers
import TrackerGate.ResourcePath
import TrackerGate.Role
import TrackerGate.Service.Basic
import TrackerGate.Service.RefreshBody
import TrackerGate.Text.Blank
import TrackerGate.Text.Printable
import TrackerGate.Token.Header
import TrackerGate.Token.Settings
import TrackerGate.Token.Signing
import TrackerGate.Token.Verification
import TrackerGate.Proofs.Permission.Written
import TrackerGate.Proofs.Token.Written
import TrackerGate.Proofs.Token.Issued
import TrackerGate.Proofs.Database.Lookup
import TrackerGate.Proofs.Database.Upkeep
import TrackerGate.Proofs.Database.Integrity
import TrackerGate.Proofs.Database.History
import TrackerGate.Proofs.Access.Standing
import TrackerGate.Proofs.Access.Inquiry
import TrackerGate.Proofs.Access.Privilege
import TrackerGate.Proofs.Access.Ladder
import TrackerGate.Proofs.Gate.Passage
import TrackerGate.Proofs.Gate.Admission
import TrackerGate.Proofs.Gate.IssueWork
import TrackerGate.Proofs.Gate.Privilege
import TrackerGate.Proofs.Gate.FailClosed
import TrackerGate.Proofs.Gate.Order
import TrackerGate.Proofs.Gate.Deletion
import TrackerGate.Proofs.Service.Subject
import TrackerGate.Proofs.Gate.Isolation
import TrackerGate.Proofs.Token.Shown
import TrackerGate.Proofs.Token.Accepted
import TrackerGate.Proofs.Token.Lifetime
import TrackerGate.Proofs.Service.Written
import TrackerGate.Proofs.Service.Refresh
import TrackerGate.Proofs.Permission.Agreement
import TrackerGate.Proofs.Permission.Shortfall
import TrackerGate.Proofs.Text.Encoding
import TrackerGate.Proofs.Text.Trimmed
import TrackerGate.Proofs.Text.Numeral
import TrackerGate.Proofs.Access.Listing
import TrackerGate.Proofs.Gate.Authorization
import TrackerGate.Proofs.Service.Anonymous
import TrackerGate.Proofs.Environment.Lives
import TrackerGate.Proofs.Json.Textual
import TrackerGate.Proofs.Entity.Written
import TrackerGate.Proofs.Token.Coding
import TrackerGate.Proofs.Path.Segments
import TrackerGate.Proofs.Path.Identifier
import TrackerGate.Proofs.Path.Mounted
import TrackerGate.Proofs.Permission.Reordered
import TrackerGate.Proofs.Gate.Report
