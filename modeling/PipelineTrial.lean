import PipelineTrial.Model.Endpoint
import PipelineTrial.Rehearsal.Encoding
import PipelineTrial.Session.Store
import PipelineTrial.Suite.Encoding
import PipelineTrial.Suite.Run
import PipelineTrial.Proofs.Dictionary
import PipelineTrial.Proofs.Pipeline.Outputs
import PipelineTrial.Proofs.Pipeline.Graph
import PipelineTrial.Run.Recording
import PipelineTrial.Proofs.Run.Course
import PipelineTrial.Proofs.Run.Ending
import PipelineTrial.Proofs.Run.Account
import PipelineTrial.Proofs.Run.Replay
import PipelineTrial.Proofs.Suite.Interleaving
import PipelineTrial.Proofs.Suite.Reports
import PipelineTrial.Remote.Recording
import PipelineTrial.Proofs.Duration
import PipelineTrial.Proofs.Run.Reenactment
import PipelineTrial.Proofs.Remote.Reenactment
import PipelineTrial.Proofs.Run.Backend
import PipelineTrial.Proofs.Suite.Alone
import PipelineTrial.Proofs.Suite.Unlimited
import PipelineTrial.Proofs.Suite.Bound
import PipelineTrial.Proofs.Suite.Isolation
import PipelineTrial.Proofs.Suite.Slots
import PipelineTrial.Proofs.Suite.Clock
import PipelineTrial.Proofs.Suite.Halting
import PipelineTrial.Proofs.Run.Honesty
import PipelineTrial.Proofs.Suite.Honesty
import PipelineTrial.Proofs.Suite.Admission
import PipelineTrial.Proofs.Suite.Line
import PipelineTrial.Proofs.Suite.Makespan
import PipelineTrial.Proofs.Suite.Work
import PipelineTrial.Proofs.Environment
import PipelineTrial.Proofs.Pipeline.Document
import PipelineTrial.Proofs.Pipeline.Substitution
import PipelineTrial.Proofs.Pipeline.Chain
import PipelineTrial.Proofs.Pipeline.Search
import PipelineTrial.Proofs.Run.Linkage
import PipelineTrial.Proofs.Run.Visits
import PipelineTrial.Proofs.Text.Blank
import PipelineTrial.Proofs.Pipeline.WellFormed
import PipelineTrial.Proofs.Pipeline.Places
import PipelineTrial.Proofs.Pipeline.Literals
import PipelineTrial.Proofs.Remote.Polls
import PipelineTrial.Proofs.Run.StepLimit
import PipelineTrial.Proofs.Json.Reader
import PipelineTrial.Proofs.Files.Tree
import PipelineTrial.Proofs.Model.Span
import PipelineTrial.Proofs.Model.Extraction
import PipelineTrial.Proofs.Json.Written
import PipelineTrial.Proofs.Session.Snapshot
import PipelineTrial.Proofs.Session.History
import PipelineTrial.Proofs.Session.Store
import PipelineTrial.Proofs.Reference
import PipelineTrial.Proofs.Pipeline.InputOrder
import PipelineTrial.Proofs.Pipeline.Rendering
import PipelineTrial.Proofs.Pipeline.Targets
import PipelineTrial.Proofs.Run.Deadline
import PipelineTrial.Proofs.Seam
import PipelineTrial.Proofs.Suite.Timeout
import PipelineTrial.Proofs.Schema
import PipelineTrial.Proofs.Model.Validation
import PipelineTrial.Proofs.Yaml.Keys
import PipelineTrial.Proofs.Pipeline.Schemas
import PipelineTrial.Proofs.Pipeline.FirstFault
import PipelineTrial.Proofs.Remote.Boundedness
import PipelineTrial.Proofs.Suite.Document
import PipelineTrial.Proofs.Suite.Cases
import PipelineTrial.Proofs.Suite.Names
import PipelineTrial.Proofs.Script.Identity
import PipelineTrial.Proofs.Script.Spliced
