import SharedAudio.Endpoint.Loop

namespace SharedAudio

namespace Endpoint

def objection? (e : Endpoint) (params : HardwareParams) : Option String :=
  if params.burst = 0 then some "hardware reported an empty burst"
  else if params.sampleRate ≠ e.config.sampleRate then
    some s!"hardware opened at {params.sampleRate} Hz, requested {e.config.sampleRate} Hz"
  else if params.channels ≠ e.config.channels then
    some s!"hardware opened {params.channels} channels, requested {e.config.channels}"
  else none

def burstsPerBuffer (e : Endpoint) : UInt64 :=
  let bursts := match e.config.burstsPerBuffer with
    | some bursts => if bursts = 0 then e.options.burstsPerBuffer else bursts
    | none => e.options.burstsPerBuffer
  if bursts = 0 then 1 else bursts

def channelCapacity? (e : Endpoint) (line : Line) : Option UInt64 :=
  (Word.mul? e.options.capacityBursts line.params.burst).map fun preset =>
    let wanted := e.config.capacity.getD preset
    if wanted < line.buffer then line.buffer else wanted

end Endpoint

namespace Site

def openStream? (s : Site) : Option (Except EndpointError Unit × Site) :=
  let e := s.endpoint
  match e.phase with
  | .opened _ => some (.error .alreadyOpen, s)
  | .closed false => some (.error .streamLost, s)
  | .closed true =>
    match e.device.start e.config with
    | (.error error, device) =>
      some (.error (.ofOpening error), { s with endpoint := { e with device } })
    | (.ok params, device) =>
      match e.objection? params with
      | some reason =>
        some (.error (.configurationUnsupported reason),
          { s with endpoint := { e with device := device.close } })
      | none => do
        let (buffer, device) := device.setBuffer (← Word.mul? e.burstsPerBuffer params.burst)
        let mixer ← Mixer.new? e.config.channels params.burst
        let e := { e with
          device
          phase := .opened ⟨params, buffer, .idle mixer⟩
          health := .healthy
          lastExit := none
          bursts := 0
          underflows := 0 }
        return (.ok (), { s with endpoint := e }.announce
          s!"opened: {params.sampleRate} Hz, {params.burst} frames/burst")

def closeStream (s : Site) : Except EndpointError Unit × Site :=
  match s.endpoint.phase with
  | .closed _ => (.error .notOpen, s)
  | .opened _ =>
    let s := s.halt
    let e := s.endpoint
    let owned := (e.line?.bind (·.loop.mixer?)).isSome
    let device := if owned then e.device.close else e.device
    let s := s.modifyRegistered Channel.stop
    (.ok (), { s with
      endpoint := { e with device, phase := .closed owned, registered := [] } }.announce "closed")

def register (s : Site) (key : Nat) (channel : Channel) : Except EndpointError Unit × Site :=
  let e := s.endpoint
  if !e.isOpen then (.error .notOpen, s)
  else if channel.channels ≠ e.config.channels then
    (.error (.channelMismatch e.config.channels channel.channels), s)
  else if s.ids.contains channel.id then (.ok (), s)
  else if e.options.maxChannels.toNat ≤ e.registered.length then
    (.error (.capacityExceeded e.options.maxChannels), s)
  else (.ok (), { s with endpoint := { e with registered := e.registered ++ [key] } })

def stopKey (s : Site) (key : Nat) : Site :=
  if s.channels[key]?.any Channel.isRunning then
    let s := s.modifyChannel key Channel.stop
    if s.running.isEmpty then s.halt else s
  else s

def unregister (s : Site) (id : StreamId) : Site :=
  match s.find? id with
  | none => s
  | some key =>
    let e := s.endpoint
    { s with endpoint := { e with registered := e.registered.erase key } }.stopKey key

def start? (s : Site) (id : StreamId) : Option (Except EndpointError Unit × Site) :=
  if !s.endpoint.isOpen then some (.error .notOpen, s)
  else
    match s.endpoint.ailment? with
    | some error => some (.error error, s)
    | none =>
      match s.find? id with
      | none => some (.error (.unknownStream id), s)
      | some key =>
        match s.channels[key]?.map Channel.start with
        | none => some (.error (.unknownStream id), s)
        | some (.error error) => some (.error error, s)
        | some (.ok started) =>
          (s.modifyChannel key fun _ => started).launch?.map fun
            | (.ok (), s) => (.ok (), s)
            | (.error error, s) => (.error error, s.modifyChannel key Channel.stop)

def stop (s : Site) (id : StreamId) : Except EndpointError Unit × Site :=
  if !s.endpoint.isOpen then (.error .notOpen, s)
  else
    match s.find? id with
    | none => (.error (.unknownStream id), s)
    | some key => (.ok (), s.stopKey key)

def setVolume (s : Site) (id : StreamId) (volume : Sample) : Except EndpointError Unit × Site :=
  match s.find? id with
  | none => (.error (.unknownStream id), s)
  | some key =>
    (.ok (), s.modifyChannel key (Channel.setVolume volume s.endpoint.options.rampBursts))

theorem openStream?_of_opened {s : Site} {line : Line} (h : s.endpoint.phase = .opened line) :
    s.openStream? = some (.error .alreadyOpen, s) := by simp [openStream?, h]

theorem unregister_of_unknown {s : Site} {id : StreamId} (h : s.find? id = none) :
    s.unregister id = s := by simp [unregister, h]

theorem register_of_registered {s : Site} {key : Nat} {channel : Channel}
    (opened : s.endpoint.isOpen = true) (fits : channel.channels = s.endpoint.config.channels)
    (h : channel.id ∈ s.ids) : s.register key channel = (.ok (), s) := by
  simp [register, opened, fits, h]

end Site

end SharedAudio
