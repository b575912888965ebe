import SharedAudio.Endpoint.Control

namespace SharedAudio

structure Server where
  options : Options
  endpoints : Array Endpoint := #[]
  refused : Array Device := #[]
  channels : Array Channel := #[]
  held : List Nat := []
  handles : Array (Option Nat) := #[]
  nextStream : UInt32 := 1
  log : Log := {}

namespace Server

def site? (s : Server) (key : Nat) : Option Site :=
  s.endpoints[key]?.map fun e => ⟨e, s.channels, s.log⟩

def putSite (s : Server) (key : Nat) (site : Site) : Server :=
  { s with
    endpoints := s.endpoints.setIfInBounds key site.endpoint
    channels := site.channels
    log := site.log }

def onSite? {α : Type} (s : Server) (key : Nat) (act : Site → α × Site) : Option (α × Server) :=
  (s.site? key).map fun site =>
    let (answer, site) := act site
    (answer, s.putSite key site)

def trySite? {α : Type} (s : Server) (key : Nat) (act : Site → Option (α × Site)) :
    Option (α × Server) :=
  (s.site? key).bind fun site =>
    (act site).map fun (answer, site) => (answer, s.putSite key site)

def updateSite? (s : Server) (key : Nat) (act : Site → Site) : Option Server :=
  (s.site? key).map fun site => s.putSite key (act site)

def onChannel? {α : Type} (s : Server) (key : Nat) (act : Channel → α × Channel) :
    Option (α × Server) :=
  s.channels[key]?.map fun channel =>
    let (answer, channel) := act channel
    (answer, { s with channels := s.channels.setIfInBounds key channel })

def deviceCount (s : Server) : Nat := s.endpoints.size + s.refused.size

def devices (s : Server) : List Device :=
  let all := s.endpoints.toList.map (·.device) ++ s.refused.toList
  (List.range s.deviceCount).filterMap fun number => all.find? (·.number == number)

def newDevice (s : Server) (plan : Plan) : Device := { number := s.deviceCount, plan }

def addEndpoint (s : Server) (config : StreamConfig) (options : Options) (plan : Plan) :
    Nat × Server :=
  (s.endpoints.size,
    { s with endpoints := s.endpoints.push { config, options, device := s.newDevice plan } })

def addChannel (s : Server) (id : StreamId) (ring : Ring) : Nat × Server :=
  (s.channels.size, { s with channels := s.channels.push { id, ring } })

def createChannel? (s : Server) (key : Nat) : Option (Except EndpointError Nat × Server) :=
  s.endpoints[key]?.bind fun e =>
    match e.line? with
    | none => some (.error .notOpen, s)
    | some line => do
      let ring ← Ring.heap? (← e.channelCapacity? line) e.config.channels
      let (channel, s) := s.addChannel ⟨s.nextStream⟩ ring
      return (.ok channel, { s with nextStream := s.nextStream + 1 })

def register? (s : Server) (key channel : Nat) : Option (Except EndpointError Unit × Server) := do
  let found ← s.channels[channel]?
  s.onSite? key (·.register channel found)

@[simp] theorem site?_putSite {s : Server} {key : Nat} {site : Site} (h : key < s.endpoints.size) :
    (s.putSite key site).site? key = some site := by
  simp [site?, putSite, h]

@[simp] theorem size_endpoints_putSite (s : Server) (key : Nat) (site : Site) :
    (s.putSite key site).endpoints.size = s.endpoints.size := by simp [putSite]

end Server

end SharedAudio
