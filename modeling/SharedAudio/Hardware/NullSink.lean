import SharedAudio.Hardware.Device
import SharedAudio.Word

namespace SharedAudio

structure Probe where
  framesWritten : UInt64 := 0
  lastRms : Sample := 0
  unplugged : Bool := false

def Probe.unplug (p : Probe) : Probe := { p with unplugged := true }

structure NullSink where
  channels : UInt64 := 0
  isOpen : Bool := false
deriving DecidableEq, Repr

namespace NullSink

def defaultBurst : UInt64 := 192

def objection? (config : StreamConfig) : Option String :=
  if config.sampleRate < 8000 ∨ 192000 < config.sampleRate then
    some s!"sample rate {config.sampleRate} Hz"
  else if config.channels < 1 ∨ 8 < config.channels then
    some s!"{config.channels} channels"
  else if config.format = .int16 ∧ 2 < config.channels then
    some s!"{config.format.name} with {config.channels} channels"
  else none

def burst (config : StreamConfig) : UInt64 :=
  match config.burst with
  | some frames => if frames = 0 then defaultBurst else frames
  | none => defaultBurst

def params (config : StreamConfig) : HardwareParams :=
  ⟨config.sampleRate, burst config, channelMask config.channels⟩

def plan (config : StreamConfig) : Plan where
  openError := (objection? config).map .unsupported
  burst := some (burst config)

def start (s : NullSink) (config : StreamConfig) :
    Except HardwareError HardwareParams × NullSink :=
  match objection? config with
  | some reason => (.error (.unsupported reason), s)
  | none => (.ok (params config), ⟨config.channels, true⟩)

inductive Overflow
  | samples
  | period
deriving DecidableEq, Repr

-- The samples of a burst are counted before it is taken, and the time that it lasts afterwards. A
-- write that cannot count them panics.
def write (s : NullSink) (p : Probe) (samples : Array Sample) (frames : UInt64) :
    Except Overflow (Except HardwareError UInt64) × NullSink × Probe :=
  if !s.isOpen then (.ok (.error (.device "stream not open")), s, p)
  else if p.unplugged then
    (.ok (.error .disconnected), { s with isOpen := false }, { p with unplugged := false })
  else
    match Word.mul? frames s.channels with
    | none => (.error .samples, s, p)
    | some count =>
      let block := samples.extract 0 count.toNat
      let p := { p with framesWritten := p.framesWritten + frames, lastRms := Sample.rms block }
      match Word.mul? frames 1000000000 with
      | none => (.error .period, s, p)
      | some _ => (.ok (.ok frames), s, p)

def setBuffer (_ : NullSink) (frames : UInt64) : UInt64 := frames

def close (s : NullSink) : NullSink := { s with isOpen := false }

theorem start_of_objection {s : NullSink} {config : StreamConfig} {reason : String}
    (h : objection? config = some reason) :
    s.start config = (.error (.unsupported reason), s) := by simp [start, h]

theorem write_closed {s : NullSink} (h : s.isOpen = false) (p : Probe) (samples : Array Sample)
    (frames : UInt64) :
    s.write p samples frames = (.ok (.error (.device "stream not open")), s, p) := by
  simp [write, h]

end NullSink

structure NullFactory where
  probe : Probe := {}
  sinks : Array NullSink := #[]

namespace NullFactory

def create (f : NullFactory) : Nat × NullFactory :=
  (f.sinks.size, { f with sinks := f.sinks.push {} })

def onSink {α : Type} (f : NullFactory) (i : Nat) (act : NullSink → Probe → α × NullSink × Probe) :
    Option (α × NullFactory) :=
  f.sinks[i]?.map fun sink =>
    let (answer, sink, probe) := act sink f.probe
    (answer, ⟨probe, f.sinks.setIfInBounds i sink⟩)

end NullFactory

end SharedAudio
