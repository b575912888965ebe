import SharedAudio.Hardware.NullSink
import SharedAudio.Server.Registry
import SharedAudio.Tone

namespace SharedAudio

structure Demo where
  server : Server
  endpoint : Nat
  producers : List (Nat × Tone) := []
  complaints : List String := []

namespace Demo

def tones : List Float := [220, 330, 440]

def amplitude : Sample := 0.2

def burst : UInt64 := 192

def config : StreamConfig := { burst := some burst }

def ahead : Nat := 2

def topUp? (channel : Channel) (tone : Tone) : Nat → Option (Channel × Tone)
  | 0 => some (channel, tone)
  | bursts + 1 =>
    if channel.ring.room < burst.toNat then some (channel, tone)
    else do
      let (block, tone) ← tone.render? burst
      topUp? (channel.write block).2 tone bursts

def produce? (s : Server) : List (Nat × Tone) → Option (Server × List (Nat × Tone))
  | [] => some (s, [])
  | (key, tone) :: rest =>
    match s.channels[key]? with
    | none => produce? s rest
    | some channel => do
      let (channel, tone) ← topUp? channel tone ahead
      let (s, rest) ← produce? { s with channels := s.channels.setIfInBounds key channel } rest
      return (s, (key, tone) :: rest)

def addTone (d : Demo) (frequency : Float) : ExceptT EndpointError Option Demo := do
  let (made, s) ← d.server.createChannel? d.endpoint
  let channel ← made
  let (registered, s) ← s.register? d.endpoint channel
  registered
  let tone := Tone.new config.sampleRate frequency amplitude config.channels
  let (s, producers) ← produce? s [(channel, tone)]
  let d := { d with producers := d.producers ++ producers }
  let id : StreamId := ((s.channels[channel]?).map (·.id)).getD ⟨0⟩
  let (started, s) ← s.trySite? d.endpoint (·.start? id)
  match started with
  | .ok () => return { d with server := s }
  | .error error =>
    let complaint := s!"failed to start {id.text}: {error.message}"
    return { d with server := s, complaints := d.complaints ++ [complaint] }

def start (options : Options) : ExceptT String Option Demo := do
  let (acquired, s) ← ({ options : Server }).acquire? config (NullSink.plan config)
  match acquired with
  | .error error => throw s!"failed to open endpoint: {error.message}"
  | .ok _ =>
    (tones.foldlM addTone { server := s, endpoint := 0 }).adapt fun error =>
      s!"failed to create stream: {error.message}"

def play? (d : Demo) : Nat → Option Demo
  | 0 => some d
  | bursts + 1 => do
    let (s, producers) ← produce? d.server d.producers
    let ((), s) ← s.onSite? d.endpoint fun site => ((), (site.grant?).getD site)
    { d with server := s, producers }.play? bursts

end Demo

end SharedAudio
