import FrameExchange.Main
import FrameExchange.World.Script
import FrameExchange.Proofs.Memory
import FrameExchange.Proofs.Frame
import FrameExchange.Proofs.Guard
import FrameExchange.Proofs.Writing
import FrameExchange.Proofs.Reading
import FrameExchange.Proofs.Exchange
import FrameExchange.Proofs.Step
import FrameExchange.Proofs.Invariant
import FrameExchange.Proofs.Calls
import FrameExchange.Proofs.Ledger
import FrameExchange.Proofs.History
import FrameExchange.Proofs.Copying
import FrameExchange.Proofs.Slots
import FrameExchange.Proofs.Files
import FrameExchange.Proofs.Cache
import FrameExchange.Proofs.Untrusted
import FrameExchange.Proofs.Showing
import FrameExchange.Proofs.RoundTrip
import FrameExchange.Proofs.System
import FrameExchange.Proofs.Recovery
import FrameExchange.Proofs.Content
import FrameExchange.Proofs.Course
import FrameExchange.Proofs.Sessions
import FrameExchange.Proofs.Capturing
import FrameExchange.Proofs.Log
import FrameExchange.Proofs.Timeline
import FrameExchange.Proofs.Chronicle
import FrameExchange.Proofs.Stale
import FrameExchange.Proofs.Fences
import FrameExchange.Proofs.Handover
import FrameExchange.Proofs.Fields
import FrameExchange.Proofs.Names
import FrameExchange.Proofs.Rendezvous
import FrameExchange.Proofs.Failing
import FrameExchange.Proofs.Aftermath
import FrameExchange.Proofs.Blindness
import FrameExchange.Proofs.Kinship
import FrameExchange.Proofs.Aside
import FrameExchange.Proofs.NonInterference
import FrameExchange.Proofs.InPlace
import FrameExchange.Proofs.Ring
import FrameExchange.Proofs.Handles
import FrameExchange.Proofs.Opening
import FrameExchange.Proofs.Mirror
import FrameExchange.Proofs.Playing
import FrameExchange.Proofs.Sequence
import FrameExchange.Proofs.Commands
import FrameExchange.Proofs.Validation
import FrameExchange.Proofs.Polling
import FrameExchange.Proofs.Watching
import FrameExchange.Proofs.JsonReaders
import FrameExchange.Proofs.JsonRoundTrip
