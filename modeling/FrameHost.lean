import FrameHost.Config.Loading
import FrameHost.Config.Writing
import FrameHost.Document.Numeral
import FrameHost.Host.Configured
import FrameHost.Http.Frame
import FrameHost.Http.Router
import FrameHost.Main
import FrameHost.Session.Hosting
import FrameHost.Session.Lifetime
import FrameHost.Session.Logging
import FrameHost.Session.Registering
import FrameHost.Session.Serving
import FrameHost.Session.Tokens
import FrameHost.Proofs.Config.Identities
import FrameHost.Proofs.Host.Running
import FrameHost.Proofs.Host.Sequences
import FrameHost.Proofs.Registry
import FrameHost.Proofs.Session.Registering
import FrameHost.Proofs.Http.Life
import FrameHost.Proofs.Http.Ownership
import FrameHost.Proofs.Http.Requests
import FrameHost.Proofs.Http.Draining
import FrameHost.Proofs.Shutdown.Timing
import FrameHost.Proofs.Shutdown.Timetable
import FrameHost.Proofs.Host.Timing
import FrameHost.Proofs.Host.Isolation
import FrameHost.Proofs.Host.Deadline
import FrameHost.Proofs.Host.Starting
import FrameHost.Proofs.Shutdown.Publication
import FrameHost.Proofs.Shutdown.Custody
import FrameHost.Proofs.Host.Tokens
import FrameHost.Proofs.Host.Waiting
import FrameHost.Proofs.Host.Trapping
import FrameHost.Proofs.Metrics
import FrameHost.Proofs.Shutdown.Chronicle
import FrameHost.Proofs.Host.Accounting
import FrameHost.Proofs.Config.Violations
import FrameHost.Proofs.Config.Complaints
import FrameHost.Proofs.Host.Desertion
import FrameHost.Proofs.Host.Logged
import FrameHost.Proofs.Config.Coverage
import FrameHost.Proofs.Config.Answers
import FrameHost.Proofs.Tokens.Families
import FrameHost.Proofs.Tokens.Waits
import FrameHost.Proofs.Session.Schedule
import FrameHost.Proofs.Session.Waking
import FrameHost.Proofs.Session.Tokens
import FrameHost.Proofs.Keys
import FrameHost.Proofs.Host.Naming
import FrameHost.Proofs.Log.Sink
import FrameHost.Proofs.Startup.Pacing
import FrameHost.Proofs.Host.Pacing
import FrameHost.Proofs.Http.Lateness
import FrameHost.Proofs.Config.Slots
import FrameHost.Proofs.Config.Edits
import FrameHost.Message.Reading
import FrameHost.Message.Writing
import FrameHost.Proofs.Document
import FrameHost.Proofs.Message
import FrameHost.Proofs.Config.RoundTrip
