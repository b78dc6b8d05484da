import EventHub.Text.Printable
import EventHub.Text.Word
import EventHub.Text.Digit
import EventHub.Text.Case
import EventHub.Text.Blank
import EventHub.Num.Shortest
import EventHub.Num.Decimal
import EventHub.Value
import EventHub.Regex.Expression
import EventHub.Pattern
import EventHub.Json.Reader
import EventHub.Callable.Binding
import EventHub.Yaml.Reader
import EventHub.Machine.EnvFile
import EventHub.Machine.Surroundings
import EventHub.Machine.Services
import EventHub.Machine.Files
import EventHub.Fault
import EventHub.Tally.Report
import EventHub.Registry
import EventHub.Settings.Flatten
import EventHub.Settings.Typed
import EventHub.Log.Clock
import EventHub.Log.Message
import EventHub.Log.Record
import EventHub.Settings.Load
import EventHub.Log.Scope
import EventHub.Callable.Profile
import EventHub.Hub.Command
import EventHub.Hub.Reply
import EventHub.Hub.Behaviour
import EventHub.Hub.World
import EventHub.Log.Sink
import EventHub.Hub.Registration
import EventHub.Hub.Dispatch
import EventHub.Hub.Session
import EventHub.Proofs.OrderedMap
import EventHub.Proofs.Callable.Fitting
import EventHub.Proofs.Callable.Remainder
import EventHub.Proofs.Callable.Stored
import EventHub.Proofs.Regex.Positions
import EventHub.Proofs.Wildcard.Reading
import EventHub.Proofs.Wildcard.Language
import EventHub.Proofs.Wildcard.Widening
import EventHub.Proofs.Pattern.Identity
import EventHub.Proofs.Registry.History
import EventHub.Proofs.Run.Outcome
import EventHub.Proofs.Callable.Validation
import EventHub.Proofs.Registry.Determined
import EventHub.Proofs.Registry.Interleaving
import EventHub.Proofs.Run.Effect
import EventHub.Proofs.Hub.Effects
import EventHub.Proofs.Session.Effects
import EventHub.Proofs.Dispatch.Depth
import EventHub.Proofs.Dispatch.Visit
import EventHub.Proofs.Dispatch.Publish
import EventHub.Proofs.Dispatch.Scope
import EventHub.Proofs.Session.Steps
import EventHub.Proofs.Dispatch.Bridges
import EventHub.Proofs.Session.Sound
import EventHub.Proofs.Session.Moves
import EventHub.Proofs.Session.Parts
import EventHub.Proofs.Session.Plain
import EventHub.Proofs.Session.Invariants
import EventHub.Proofs.Tally.History
import EventHub.Proofs.Tally.Bounded
import EventHub.Proofs.Counting.Accounts
import EventHub.Proofs.Counting.Exact
import EventHub.Proofs.Counting.Failures
import EventHub.Proofs.Counting.Sizes
import EventHub.Proofs.Counting.Afresh
import EventHub.Proofs.Session.Handles
import EventHub.Proofs.Session.Refusals
import EventHub.Proofs.Session.Stamps
import EventHub.Proofs.Session.Lines
import EventHub.Proofs.Session.ErrorChannel
import EventHub.Proofs.Lockstep.Values
import EventHub.Proofs.Lockstep.Worlds
import EventHub.Proofs.Settings.Finding
import EventHub.Proofs.Settings.Stages
import EventHub.Proofs.Settings.Failure
import EventHub.Proofs.Settings.Types
import EventHub.Proofs.Settings.Variables
import EventHub.Proofs.Settings.Precedence
import EventHub.Proofs.Settings.Malformed
import EventHub.Proofs.Settings.Flattening
import EventHub.Proofs.Settings.Reloading
import EventHub.Proofs.Hub.Configured
import EventHub.Proofs.Hub.Reported
import EventHub.Proofs.Lockstep.Registration
import EventHub.Proofs.Lockstep.Commands
import EventHub.Proofs.Lockstep.HostCode
import EventHub.Proofs.Lockstep.Dispatch
import EventHub.Proofs.Lockstep.Privacy
import EventHub.Proofs.Json.Grammar
import EventHub.Proofs.Json.Reading
import EventHub.Proofs.Log.Encoding
import EventHub.Proofs.Log.Decoding
