import SharedAudio.Mixer
import SharedAudio.Gain.Ramp
import SharedAudio.Endpoint.Error

namespace SharedAudio

structure Channel where
  id : StreamId
  ring : Ring
  state : ChannelState := .stopped
  ramp : Ramp := .settled 1
  applied : Sample := 1
  transferred : Bool := false
  underflows : UInt64 := 0
  framesMixed : UInt64 := 0
  events : List StreamEvent := []

structure ChannelStatus where
  id : StreamId
  state : ChannelState
  volume : Sample
  fill : Sample
  underflows : UInt64
  framesMixed : UInt64
  transferred : Bool

namespace Channel

def backlog : Nat := 64

def enter (c : Channel) (e : StreamEvent) : Channel :=
  if e.possibleIn c.state then
    { c with
      state := e.entered
      events := if c.events.length < backlog then c.events ++ [e] else c.events }
  else c

def isRunning (c : Channel) : Bool := c.state == .running

def start (c : Channel) : Except EndpointError Channel :=
  match c.state with
  | .stopped | .running => .ok (c.enter .started)
  | .disconnected => .error .disconnected
  | .faulted => .error (.streamFault s!"{c.id.text} faulted earlier")

def stop (c : Channel) : Channel := c.enter .stopped

def disconnect (c : Channel) : Channel := c.enter .disconnected

def fault (reason : String) (c : Channel) : Channel := c.enter (.faulted reason)

def drain (c : Channel) : List StreamEvent × Channel := (c.events, { c with events := [] })

def channels (c : Channel) : UInt64 := UInt64.ofNat c.ring.channels

theorem toNat_channels (c : Channel) : c.channels.toNat = c.ring.channels :=
  UInt64.toNat_ofNat_of_lt' c.ring.channels_lt

def volume (c : Channel) : Sample := c.ramp.target

def setVolume (volume : Sample) (bursts : UInt32) (c : Channel) : Channel :=
  { c with ramp := c.ramp.aim volume bursts }

def write (c : Channel) (samples : Array Sample) : Nat × Channel :=
  let (frames, ring) := c.ring.push samples
  (frames, { c with ring })

def pop (c : Channel) (block : Array Sample) : Nat × Array Sample × Channel :=
  let (frames, block, ring) := c.ring.pop block
  (frames, block, { c with ring })

def retarget? (c : Channel) (value : Int) : Option Channel :=
  (c.ring.retarget? value).map ({ c with ring := · })

def status (c : Channel) : ChannelStatus where
  id := c.id
  state := c.state
  volume := c.volume
  fill := c.ring.fill
  underflows := c.underflows
  framesMixed := c.framesMixed
  transferred := c.transferred

def stepGain (c : Channel) : Channel :=
  { c with ramp := c.ramp.next, applied := c.ramp.next.current }

def record (c : Channel) (share : Mixer.Share) : Channel :=
  { c with
    ring := share.ring
    transferred := true
    framesMixed := c.framesMixed + UInt64.ofNat share.frames
    underflows := if share.underflowed then c.underflows + 1 else c.underflows }

theorem enter_of_isTerminal {c : Channel} (h : c.state.isTerminal = true) (e : StreamEvent) :
    c.enter e = c := by
  simp [enter, StreamEvent.not_possibleIn_of_isTerminal h e]

theorem state_enter (c : Channel) (e : StreamEvent) :
    (c.enter e).state = if e.possibleIn c.state then e.entered else c.state := by
  simp only [enter]
  split <;> rfl

@[simp] theorem id_enter (c : Channel) (e : StreamEvent) : (c.enter e).id = c.id := by
  simp only [enter]
  split <;> rfl

@[simp] theorem ring_enter (c : Channel) (e : StreamEvent) : (c.enter e).ring = c.ring := by
  simp only [enter]
  split <;> rfl

theorem channels_enter (c : Channel) (e : StreamEvent) : (c.enter e).channels = c.channels := by
  rw [channels, ring_enter, channels]

theorem length_events_enter {c : Channel} (h : c.events.length ≤ backlog) (e : StreamEvent) :
    (c.enter e).events.length ≤ backlog := by
  simp only [enter]
  split
  · dsimp only
    split
    · simp only [List.length_append, List.length_singleton]
      omega
    · exact h
  · exact h

end Channel

end SharedAudio
