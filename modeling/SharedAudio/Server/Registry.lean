import SharedAudio.Server.Basic
import SharedAudio.Gain.Decibel

namespace SharedAudio.Server

def sharable? (s : Server) (config : StreamConfig) : Option Nat :=
  s.held.find? fun key => s.endpoints[key]?.any fun e => e.usable && e.config.serves config

def setReferences (s : Server) (key : Nat) (count : UInt64) : Server :=
  { s with endpoints := s.endpoints.modify key ({ · with references := count }) }

def references (s : Server) (key : Nat) : UInt64 := (s.endpoints[key]?.map (·.references)).getD 0

def addHandle (s : Server) (key : Nat) : Nat × Server :=
  (s.handles.size, { s with handles := s.handles.push (some key) })

def acquire? (s : Server) (config : StreamConfig) (plan : Plan) :
    Option (Except EndpointError Nat × Server) :=
  match s.sharable? config with
  | some key =>
    let (handle, s) := (s.setReferences key (s.references key + 1)).addHandle key
    some (.ok handle, s)
  | none =>
    let fresh : Endpoint := { config, options := s.options, device := s.newDevice plan }
    (Site.mk fresh s.channels s.log).openStream?.map fun
    | (.error error, site) =>
      (.error error,
        { s with refused := s.refused.push site.endpoint.device, log := site.log })
    | (.ok (), site) =>
      let key := s.endpoints.size
      let s := { s with
        endpoints := s.endpoints.push { site.endpoint with references := 1 }
        held := s.held ++ [key]
        log := site.log }
      let (handle, s) := s.addHandle key
      (.ok handle, s)

def retire (s : Server) (key : Nat) : Server :=
  let s := { s with held := s.held.filter (· != key) }
  (s.updateSite? key fun site => site.closeStream.2.announce "released and closed").getD s

def unreference (s : Server) (key : Nat) : Server :=
  let count := s.references key
  let count := if count = 0 then 0 else count - 1
  let s := s.setReferences key count
  if count = 0 then s.retire key else s

def release? (s : Server) (handle : Nat) : Option Server :=
  match s.handles[handle]? with
  | some (some key) =>
    some ({ s with handles := s.handles.setIfInBounds handle none }.unreference key)
  | _ => none

def find? (s : Server) (id : StreamId) : Option Nat :=
  s.held.find? fun key => (s.site? key).any (·.ids.contains id)

def statuses (s : Server) : List EndpointStatus := (s.held.filterMap s.site?).map Site.status

def isRunning (s : Server) (key : Nat) (id : StreamId) : Bool :=
  (s.site? key).any (·.registered.any fun c => c.id == id && c.isRunning)

def toggle? (s : Server) (id : StreamId) : Option (Except EndpointError ChannelState × Server) :=
  match s.find? id with
  | none => some (.error (.unknownStream id), s)
  | some key =>
    let (result, state) :=
      if s.isRunning key id then (s.onSite? key (·.stop id), .stopped)
      else (s.trySite? key (·.start? id), .running)
    result.map fun (answer, s) => (answer.map fun _ => state, s)

def setLevel (s : Server) (id : StreamId) (level : Sample) : Bool × Server :=
  match s.find? id with
  | none => (false, s)
  | some key =>
    match s.onSite? key (·.setVolume id (Decibel.toLinear level)) with
    | some (.ok (), s) => (true, s)
    | _ => (false, s)

theorem toggle?_of_unknown {s : Server} {id : StreamId} (h : s.find? id = none) :
    s.toggle? id = some (.error (.unknownStream id), s) := by simp [toggle?, h]

theorem setLevel_of_unknown {s : Server} {id : StreamId} (h : s.find? id = none)
    (level : Sample) : s.setLevel id level = (false, s) := by simp [setLevel, h]

end SharedAudio.Server
