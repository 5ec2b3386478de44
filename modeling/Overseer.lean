import Overseer.Adapter.ExitWatch
import Overseer.Config
import Overseer.Launcher.Program
import Overseer.Loader.Preflight
import Overseer.Log.Run
import Overseer.Main
import Overseer.Output.Reader
import Overseer.Rehearsal.Adapter
import Overseer.Rehearsal.Console
import Overseer.Rehearsal.Scenario
import Overseer.Shell.Grammar
import Overseer.Supervisor.System
import Overseer.Wire.Codec
import Overseer.Proofs.Supervisor.Coherence
import Overseer.Proofs.Supervisor.History
import Overseer.Proofs.Supervisor.Lifecycle
import Overseer.Proofs.Supervisor.Chapters
import Overseer.Proofs.Supervisor.Telling
import Overseer.Proofs.Supervisor.Grammar
import Overseer.Proofs.Supervisor.Signals
import Overseer.Proofs.Supervisor.Service
import Overseer.Proofs.Output.Content
import Overseer.Proofs.Supervisor.Forwarding
import Overseer.Proofs.Supervisor.Integrity
import Overseer.Proofs.Output.Pieces
import Overseer.Proofs.Supervisor.Attending
import Overseer.Proofs.Supervisor.Posting
import Overseer.Proofs.Supervisor.Readiness
import Overseer.Proofs.Supervisor.Refusals
import Overseer.Proofs.Supervisor.Indifference
import Overseer.Proofs.Supervisor.Intake
import Overseer.Proofs.Supervisor.Sizing
import Overseer.Proofs.Supervisor.Delivery
import Overseer.Proofs.Supervisor.Exclusion
import Overseer.Proofs.Supervisor.Renumbering
import Overseer.Proofs.Supervisor.Likeness
import Overseer.Proofs.Supervisor.Replay
import Overseer.Proofs.Supervisor.Failure
import Overseer.Proofs.Loader.Exchanges
import Overseer.Proofs.Loader.Caching
import Overseer.Proofs.Loader.Locking
import Overseer.Proofs.Loader.Entries
import Overseer.Proofs.Path.Components
import Overseer.Proofs.Loader.Spellings
import Overseer.Proofs.Loader.Checks
import Overseer.Proofs.Loader.Preflight
import Overseer.Proofs.Options.Arguments
import Overseer.Proofs.Supervisor.Launching
import Overseer.Proofs.Rehearsal.Launching
import Overseer.Proofs.Supervisor.Gating
import Overseer.Proofs.Supervisor.Agreement
import Overseer.Proofs.Supervisor.Callbacks
import Overseer.Proofs.Supervisor.Quiescence
import Overseer.Proofs.Output.Feeding
import Overseer.Proofs.Output.Holding
import Overseer.Proofs.Output.Segments
import Overseer.Proofs.Output.Arrival
import Overseer.Proofs.Output.Draining
import Overseer.Proofs.Output.Buffering
import Overseer.Proofs.Output.Settling
import Overseer.Proofs.Wire.RoundTrip
import Overseer.Proofs.Text.Words
import Overseer.Proofs.Options.Variables
import Overseer.Proofs.Text.Numerals
import Overseer.Proofs.Config.Numbers
import Overseer.Proofs.Adapter.Rendezvous
import Overseer.Proofs.Supervisor.Waking
import Overseer.Proofs.Supervisor.Escalation
import Overseer.Proofs.Supervisor.Story
import Overseer.Proofs.Launcher.Turns
import Overseer.Proofs.Launcher.Course
import Overseer.Proofs.Launcher.Leaving
