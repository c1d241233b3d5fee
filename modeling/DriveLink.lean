import DriveLink.Bytes
import DriveLink.Channel.Basic
import DriveLink.Channel.Readiness
import DriveLink.Channel.Waiter
import DriveLink.CommandLine.Invocation
import DriveLink.CommandLine.Number
import DriveLink.CommandLine.Scan
import DriveLink.Digest.Hmac
import DriveLink.Digest.Sha1
import DriveLink.Digest.Signer
import DriveLink.Duration
import DriveLink.Failure
import DriveLink.Frame.Basic
import DriveLink.Frame.Reader
import DriveLink.Frame.Writer
import DriveLink.Main
import DriveLink.Options
import DriveLink.Pipeline.Completion
import DriveLink.Pipeline.Event
import DriveLink.Pipeline.Greeting
import DriveLink.Pipeline.Inbox
import DriveLink.Pipeline.Multiplexer
import DriveLink.Pipeline.Outbox
import DriveLink.Pipeline.Outstanding
import DriveLink.Protocol.Command
import DriveLink.Protocol.Envelope
import DriveLink.Protocol.Fields
import DriveLink.Protocol.Layout
import DriveLink.Protocol.Names
import DriveLink.Record
import DriveLink.Session.Blocking
import DriveLink.Session.Connection
import DriveLink.Session.Dial
import DriveLink.Session.Exclusive
import DriveLink.Session.Reply
import DriveLink.Session.Request
import DriveLink.Simulation.Drive
import DriveLink.Simulation.Script
import DriveLink.Simulation.Socket
import DriveLink.Simulation.Source
import DriveLink.Status
import DriveLink.Text.Hex
import DriveLink.Text.Utf8
import DriveLink.Trust.Base64
import DriveLink.Trust.Certificate
import DriveLink.Trust.Der
import DriveLink.Trust.HostName
import DriveLink.Trust.Pem
import DriveLink.Trust.Store
import DriveLink.Wire.Basic
import DriveLink.Wire.Error
import DriveLink.Proofs.Frame.Stream
import DriveLink.Proofs.Frame.Reading
import DriveLink.Proofs.Frame.Parse
import DriveLink.Proofs.Frame.Schedule
import DriveLink.Proofs.Pipeline.Life
import DriveLink.Proofs.Pipeline.Accept
import DriveLink.Proofs.Pipeline.Ledger
import DriveLink.Proofs.Pipeline.Order
import DriveLink.Proofs.Pipeline.Once
import DriveLink.Proofs.Pipeline.Correlation
import DriveLink.Proofs.Pipeline.Authentic
import DriveLink.Proofs.Pipeline.Delivery
import DriveLink.Proofs.Pipeline.Written
import DriveLink.Proofs.Session.Waiting
import DriveLink.Proofs.Channel.Meter
import DriveLink.Proofs.Pipeline.Coherence
import DriveLink.Proofs.Pipeline.Metering
import DriveLink.Proofs.Pipeline.Outflow
import DriveLink.Proofs.Channel.Stock
import DriveLink.Proofs.Frame.Facing
import DriveLink.Proofs.Pipeline.Fault
import DriveLink.Proofs.Pipeline.Burst
import DriveLink.Proofs.Wire.Laws
import DriveLink.Proofs.Wire.Sequences
import DriveLink.Proofs.Protocol.Layout
import DriveLink.Proofs.Protocol.Push
import DriveLink.Proofs.Protocol.Command
import DriveLink.Proofs.Pipeline.Names
import DriveLink.Proofs.Digest.Agreement
import DriveLink.Proofs.Pipeline.Submission
import DriveLink.Proofs.Frame.Train
import DriveLink.Proofs.Channel.Calls
import DriveLink.Proofs.Pipeline.Intake
import DriveLink.Proofs.Pipeline.Shipping
import DriveLink.Proofs.Pipeline.Blame
import DriveLink.Proofs.Channel.Opening
import DriveLink.Proofs.Pipeline.Settling
import DriveLink.Proofs.Pipeline.Greeting
import DriveLink.Proofs.Pipeline.Rounds
import DriveLink.Proofs.Pipeline.AnyOrder
import DriveLink.Proofs.Pipeline.Fuse
import DriveLink.Proofs.Pipeline.Hearing
import DriveLink.Proofs.Pipeline.Carried
import DriveLink.Proofs.Session.Turns
import DriveLink.Proofs.Session.Batches
import DriveLink.Proofs.Session.Finishing
import DriveLink.Proofs.Channel.Responder
import DriveLink.Proofs.Pipeline.Conversation
import DriveLink.Proofs.Session.RoundTrip
import DriveLink.Proofs.Pipeline.Interest
import DriveLink.Proofs.Session.Unanswered
import DriveLink.Proofs.Session.FirstRun
import DriveLink.Proofs.Pipeline.Oversize
import DriveLink.Proofs.Pipeline.Cancellation
import DriveLink.Proofs.Pipeline.Indexes
import DriveLink.Proofs.Frame.Buffering
import DriveLink.Proofs.Pipeline.Untouched
import DriveLink.Proofs.Channel.Logbook
import DriveLink.Proofs.Session.History
import DriveLink.Proofs.Session.CrossTalk
import DriveLink.Proofs.Session.Registration
import DriveLink.Proofs.Session.Usage
import DriveLink.Proofs.Session.Provenance
import DriveLink.Proofs.Session.PushReport
import DriveLink.Proofs.Pipeline.Effort
import DriveLink.Proofs.Channel.Tape
import DriveLink.Proofs.Pipeline.Learning
import DriveLink.Proofs.Session.Headers
import DriveLink.Proofs.Session.Numbering
