import SharedAudio.Server.Basic

namespace SharedAudio

def fieldsText (name : String) (fields : List (String × String)) : String :=
  name ++ " \x7b " ++ ", ".intercalate (fields.map fun (field, value) => field ++ ": " ++ value) ++
    " \x7d"

def optionText : Option UInt64 → String
  | none => "None"
  | some n => s!"Some({n})"

def StreamId.inspect (id : StreamId) : String := s!"StreamId({id.number})"

def StreamConfig.inspect (c : StreamConfig) : String :=
  fieldsText "StreamConfig" [
    ("sample_rate", toString c.sampleRate),
    ("channel_count", toString c.channels),
    ("format", c.format.name),
    ("device_id", toString c.device),
    ("frames_per_burst", optionText c.burst),
    ("capacity_frames", optionText c.capacity),
    ("bursts_per_buffer", optionText c.burstsPerBuffer)]

def Channel.inspect (c : Channel) : String :=
  fieldsText "ClientChannel" [
    ("id", c.id.inspect),
    ("state", c.state.name),
    ("channels", toString c.channels),
    ("capacity_frames", toString c.ring.capacity)]

def Endpoint.inspect (e : Endpoint) : String :=
  fieldsText "ServiceEndpoint" [
    ("config", e.config.inspect),
    ("open", toString e.isOpen),
    ("health", e.health.name),
    ("reference_count", toString e.references)]

namespace Server

def inspectRegistry (s : Server) : String :=
  fieldsText "EndpointRegistry" [("endpoints", toString s.held.length)]

def inspectHandles (s : Server) : List String :=
  (s.handles.toList.filterMap fun handle => handle.bind (s.endpoints[·]?)).map
    fun e => s!"EndpointHandle({e.inspect})"

end Server

end SharedAudio
