import ServiceBroker.Client.Cancellation
import ServiceBroker.Client.Driver
import ServiceBroker.Client.Script
import ServiceBroker.Loopback
import ServiceBroker.Proofs.Reply
import ServiceBroker.Proofs.Step
import ServiceBroker.Proofs.Requests
import ServiceBroker.Proofs.Outcome
import ServiceBroker.Proofs.ReadBack
import ServiceBroker.Proofs.RecordReadBack
import ServiceBroker.Proofs.Tracked
import ServiceBroker.Proofs.Resumption
import ServiceBroker.Proofs.Form
import ServiceBroker.Proofs.Transit
import ServiceBroker.Proofs.Bodies
import ServiceBroker.Proofs.Modes
import ServiceBroker.Proofs.Countdown
import ServiceBroker.Proofs.Refinement
import ServiceBroker.Proofs.Acceptance
import ServiceBroker.Proofs.Usable
import ServiceBroker.Proofs.Backing
import ServiceBroker.Proofs.Tokens
import ServiceBroker.Proofs.Consistency
import ServiceBroker.Proofs.Alternation
import ServiceBroker.Proofs.Crowd
import ServiceBroker.Proofs.Isolation
import ServiceBroker.Proofs.Pollers
import ServiceBroker.Proofs.Rejection
import ServiceBroker.Proofs.NumberReadBack
import ServiceBroker.Proofs.ValueReadBack
import ServiceBroker.Proofs.SentBodies
import ServiceBroker.Proofs.Dispatch
import ServiceBroker.Proofs.Understood
import ServiceBroker.Proofs.Calls
import ServiceBroker.Proofs.Arrivals
import ServiceBroker.Proofs.Faithful
import ServiceBroker.Proofs.Deletion
import ServiceBroker.Proofs.Iteration
import ServiceBroker.Proofs.Secrecy
import ServiceBroker.Proofs.RoundTrip
import ServiceBroker.Proofs.Sorting
import ServiceBroker.Proofs.Opening
import ServiceBroker.Proofs.Promise
import ServiceBroker.Proofs.Skipping
import ServiceBroker.Proofs.Grammar
import ServiceBroker.Proofs.Alike
import ServiceBroker.Proofs.Meaning
import ServiceBroker.Proofs.Rearranged
import ServiceBroker.Proofs.Trees
import ServiceBroker.Proofs.Parts
import ServiceBroker.Proofs.Records
import ServiceBroker.Proofs.DistinctKeys
import ServiceBroker.Proofs.Comparison
import ServiceBroker.Proofs.StoredBodies
import ServiceBroker.Proofs.Written
import ServiceBroker.Proofs.Repetition
import ServiceBroker.Proofs.Credentials
import ServiceBroker.Proofs.Payload
import ServiceBroker.Proofs.Shape
import ServiceBroker.Proofs.Families
import ServiceBroker.Proofs.ModeNames
