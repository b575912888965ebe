import SharedAudio.Channel.Basic
import SharedAudio.Config.Options
import SharedAudio.Hardware.Device
import SharedAudio.Log

namespace SharedAudio

inductive Health
  | healthy
  | disconnected
  | faulted
deriving DecidableEq, Repr

def Health.name : Health → String
  | .healthy => "Healthy"
  | .disconnected => "Disconnected"
  | .faulted => "Faulted"

-- Between operations a loop that runs has a mixed burst that waits to be written. One that has
-- panicked has taken mixer and hardware with it, and may have left its flag up.
inductive Loop
  | idle (mixer : Mixer)
  | writing (mixer : Mixer)
  | ended (mixer : Mixer)
  | panicked
  | lost (flag : Bool)

def Loop.streaming : Loop → Bool
  | .writing _ | .panicked => true
  | .idle _ | .ended _ => false
  | .lost flag => flag

def Loop.mixer? : Loop → Option Mixer
  | .idle mixer | .writing mixer | .ended mixer => some mixer
  | .panicked | .lost _ => none

structure Line where
  params : HardwareParams
  buffer : UInt64
  loop : Loop

inductive Phase
  | closed (owned : Bool)
  | opened (line : Line)

def Phase.line? : Phase → Option Line
  | .closed _ => none
  | .opened line => some line

structure Endpoint where
  config : StreamConfig
  options : Options
  device : Device
  phase : Phase := .closed true
  health : Health := .healthy
  lastExit : Option LoopExit := none
  bursts : UInt64 := 0
  underflows : UInt64 := 0
  rms : Sample := 0
  registered : List Nat := []
  references : UInt64 := 0

structure EndpointStatus where
  device : UInt32
  sampleRate : UInt32
  channels : UInt64
  burst : UInt64
  buffer : UInt64
  references : UInt64
  isOpen : Bool
  streaming : Bool
  health : Health
  bursts : UInt64
  underflows : UInt64
  rms : Sample
  lastExit : Option LoopExit
  streams : List ChannelStatus

namespace Endpoint

def line? (e : Endpoint) : Option Line := e.phase.line?

def isOpen (e : Endpoint) : Bool := e.line?.isSome

def streaming (e : Endpoint) : Bool :=
  match e.phase with
  | .closed _ => false
  | .opened line => line.loop.streaming

def burst? (e : Endpoint) : Option UInt64 := e.line?.map (·.params.burst)

def buffer? (e : Endpoint) : Option UInt64 := e.line?.map (·.buffer)

def usable (e : Endpoint) : Bool := e.isOpen && e.health == .healthy

def ailment? (e : Endpoint) : Option EndpointError :=
  match e.health with
  | .healthy => none
  | .disconnected => some .disconnected
  | .faulted => some (.streamFault ((e.lastExit.map LoopExit.message).getD "endpoint faulted"))

def setLoop (e : Endpoint) (loop : Loop) : Endpoint :=
  match e.phase with
  | .closed _ => e
  | .opened line => { e with phase := .opened { line with loop } }

-- No loop begins where there is no timeout.
def writeTimeout (e : Endpoint) (params : HardwareParams) : UInt64 :=
  (e.options.writeTimeout? params.burst params.sampleRate).getD 0

theorem line?_eq_some {e : Endpoint} {line : Line} :
    e.line? = some line ↔ e.phase = .opened line := by
  unfold line?
  cases e.phase <;> simp [Phase.line?]

@[simp] theorem isOpen_setLoop (e : Endpoint) (loop : Loop) :
    (e.setLoop loop).isOpen = e.isOpen := by
  unfold setLoop isOpen line?
  split <;> simp_all [Phase.line?]

end Endpoint

structure Site where
  endpoint : Endpoint
  channels : Array Channel
  log : Log := {}

namespace Site

def note (s : Site) (line : String) : Site := { s with log := s.log.push line }

def announce (s : Site) (what : String) : Site :=
  s.note s!"endpoint {s.endpoint.config.device} {what}"

def registered (s : Site) : List Channel := s.endpoint.registered.filterMap (s.channels[·]?)

def ids (s : Site) : List StreamId := s.registered.map (·.id)

def running (s : Site) : List Channel := s.registered.filter Channel.isRunning

def idOf? (s : Site) (key : Nat) : Option StreamId := s.channels[key]?.map (·.id)

def find? (s : Site) (id : StreamId) : Option Nat :=
  s.endpoint.registered.find? fun key => s.idOf? key == some id

def modifyChannel (s : Site) (key : Nat) (change : Channel → Channel) : Site :=
  { s with channels := s.channels.modify key change }

def modifyRegistered (s : Site) (change : Channel → Channel) : Site :=
  { s with
    channels := s.endpoint.registered.foldl (fun all key => all.modify key change) s.channels }

def setLoop (s : Site) (loop : Loop) : Site := { s with endpoint := s.endpoint.setLoop loop }

def disconnectAll (s : Site) : Site := s.modifyRegistered Channel.disconnect

def faultAll (s : Site) (reason : String) : Site := s.modifyRegistered (Channel.fault reason)

def status (s : Site) : EndpointStatus where
  device := s.endpoint.config.device
  sampleRate := s.endpoint.config.sampleRate
  channels := s.endpoint.config.channels
  burst := s.endpoint.burst?.getD 0
  buffer := s.endpoint.buffer?.getD 0
  references := s.endpoint.references
  isOpen := s.endpoint.isOpen
  streaming := s.endpoint.streaming
  health := s.endpoint.health
  bursts := s.endpoint.bursts
  underflows := s.endpoint.underflows
  rms := s.endpoint.rms
  lastExit := s.endpoint.lastExit
  streams := s.registered.map Channel.status

@[simp] theorem endpoint_note (s : Site) (line : String) : (s.note line).endpoint = s.endpoint := by
  simp only [note]

@[simp] theorem channels_note (s : Site) (line : String) : (s.note line).channels = s.channels := by
  simp only [note]

@[simp] theorem endpoint_modifyRegistered (s : Site) (change : Channel → Channel) :
    (s.modifyRegistered change).endpoint = s.endpoint := rfl

end Site

end SharedAudio
