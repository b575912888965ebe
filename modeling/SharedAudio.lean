import SharedAudio.Mixer
import SharedAudio.Gain.Ramp
import SharedAudio.Gain.Decibel
import SharedAudio.Tone
import SharedAudio.Text.Blank
import SharedAudio.Decimal.Fixed
import SharedAudio.Decimal.Reading
import SharedAudio.Config.Options
import SharedAudio.Hardware.Device
import SharedAudio.Hardware.NullSink
import SharedAudio.Log
import SharedAudio.Channel.Basic
import SharedAudio.Endpoint.Control
import SharedAudio.Server.Operation
import SharedAudio.Console.Screen
import SharedAudio.Inspect
import SharedAudio.Main
import SharedAudio.Proofs.Fifo.Position
import SharedAudio.Proofs.Fifo.Slots
import SharedAudio.Proofs.Ring.Circle
import SharedAudio.Proofs.Ring.Queue
import SharedAudio.Proofs.Ring.Refinement
import SharedAudio.Proofs.Ring.Mapping
import SharedAudio.Proofs.Endpoint.Easing
import SharedAudio.Proofs.Endpoint.Service
import SharedAudio.Proofs.Server.Effects
import SharedAudio.Proofs.Server.Deed
import SharedAudio.Proofs.Server.Service
import SharedAudio.Proofs.Mixing.Tape
import SharedAudio.Proofs.Mixing.Mixdown
import SharedAudio.Proofs.Endpoint.Calm
import SharedAudio.Proofs.Server.Calm
import SharedAudio.Proofs.Server.Session
import SharedAudio.Proofs.Server.Bursts
import SharedAudio.Proofs.Server.Fidelity
import SharedAudio.Proofs.Endpoint.Work
import SharedAudio.Proofs.Endpoint.Rest
import SharedAudio.Proofs.Endpoint.Failure
import SharedAudio.Proofs.Server.Work
import SharedAudio.Proofs.Server.Rest
import SharedAudio.Proofs.Server.Counts
import SharedAudio.Proofs.Server.Sharing
import SharedAudio.Proofs.Server.Admission
import SharedAudio.Proofs.Endpoint.Opening
import SharedAudio.Proofs.Endpoint.Outage
import SharedAudio.Proofs.Endpoint.Latch
import SharedAudio.Proofs.Server.Outage
import SharedAudio.Proofs.Endpoint.Conversation
import SharedAudio.Proofs.Server.Conversation
import SharedAudio.Proofs.Mixing.Parts
import SharedAudio.Proofs.Server.Cells
import SharedAudio.Proofs.Server.Clipping
import SharedAudio.Proofs.Ring.Bounds
import SharedAudio.Proofs.Mixing.Bounds
import SharedAudio.Proofs.Channel.Lifecycle
import SharedAudio.Proofs.Endpoint.Flag
import SharedAudio.Proofs.Endpoint.Hearing
import SharedAudio.Proofs.Endpoint.Past
import SharedAudio.Proofs.Server.Flag
import SharedAudio.Proofs.Server.Past
import SharedAudio.Proofs.Server.Erasure
import SharedAudio.Proofs.Server.Lifecycle
import SharedAudio.Proofs.Ring.Storage
import SharedAudio.Proofs.Endpoint.Tolerance
import SharedAudio.Proofs.Endpoint.Near
import SharedAudio.Proofs.Endpoint.Lockstep
import SharedAudio.Proofs.Endpoint.Isolation
import SharedAudio.Proofs.Server.Near
import SharedAudio.Proofs.Endpoint.Deliveries
import SharedAudio.Proofs.Endpoint.Shortfalls
import SharedAudio.Proofs.Mixing.Shortage
import SharedAudio.Proofs.Server.Isolation
import SharedAudio.Proofs.Server.Ledger
import SharedAudio.Proofs.Server.Reopening
import SharedAudio.Proofs.Server.Statistics
import SharedAudio.Proofs.Endpoint.Constants
import SharedAudio.Proofs.Server.Roll
import SharedAudio.Proofs.Mixing.Room
import SharedAudio.Proofs.Server.Enrolment
import SharedAudio.Proofs.Endpoint.Parting
import SharedAudio.Proofs.Server.Toggle
import SharedAudio.Proofs.Console.Editing
import SharedAudio.Proofs.Sample.Truncation
import SharedAudio.Proofs.Sample.Rounding
import SharedAudio.Proofs.Sample.Storage
import SharedAudio.Proofs.Sample.Arithmetic
import SharedAudio.Proofs.Gain.Scalar
import SharedAudio.Proofs.Gain.Fall
import SharedAudio.Proofs.Gain.Course
import SharedAudio.Proofs.Fifo.Accounting
import SharedAudio.Proofs.Ring.Regions
import SharedAudio.Proofs.Mixing.Accumulation
import SharedAudio.Proofs.Gain.Landing
import SharedAudio.Proofs.Mixing.Chorus
import SharedAudio.Proofs.Server.Tuning
import SharedAudio.Proofs.Server.Score
import SharedAudio.Proofs.Ring.Request
import SharedAudio.Proofs.Server.Fitting
import SharedAudio.Proofs.Server.Sizing
import SharedAudio.Proofs.Console.State
import SharedAudio.Proofs.Hardware.Sinks
import SharedAudio.Proofs.Tone.Blocks
import SharedAudio.Proofs.Log.Turns
