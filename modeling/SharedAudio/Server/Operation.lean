import SharedAudio.Server.Registry

namespace SharedAudio

inductive Operation
  | acquire (config : StreamConfig) (plan : Plan)
  | release (handle : Nat)
  | addEndpoint (config : StreamConfig) (options : Options) (plan : Plan)
  | setPlan (endpoint : Nat) (plan : Plan)
  | extendScript (endpoint : Nat) (outcomes : List Outcome)
  | grant (endpoint writes : Nat)
  | openStream (endpoint : Nat)
  | closeStream (endpoint : Nat)
  | createChannel (endpoint : Nat)
  | addChannel (id : StreamId) (ring : Ring)
  | register (endpoint channel : Nat)
  | unregister (endpoint : Nat) (id : StreamId)
  | start (endpoint : Nat) (id : StreamId)
  | stop (endpoint : Nat) (id : StreamId)
  | setVolume (endpoint : Nat) (id : StreamId) (volume : Sample)
  | disconnectAll (endpoint : Nat)
  | write (channel : Nat) (samples : Array Sample)
  | pop (channel : Nat) (block : Array Sample)
  | retarget (channel : Nat) (threshold : Int)
  | setGain (channel : Nat) (volume : Sample) (bursts : UInt32)
  | disconnect (channel : Nat)
  | fault (channel : Nat) (reason : String)
  | drainEvents (channel : Nat)
  | toggle (id : StreamId)
  | setLevel (id : StreamId) (level : Sample)
  | drainLog

inductive Reply
  | nothing
  | done
  | failed (error : EndpointError)
  | outOfRange
  | handle (number : Nat)
  | endpoint (key : Nat)
  | channel (key : Nat)
  | count (n : Nat)
  | flag (set : Bool)
  | gain (volume : Sample)
  | state (state : ChannelState)
  | popped (frames : Nat) (block : Array Sample)
  | events (events : List StreamEvent)
  | lines (lines : List String)

namespace Reply

def ofResult {α : Type} (ok : α → Reply) : Except EndpointError α → Reply
  | .ok value => ok value
  | .error error => .failed error

def ofUnit (result : Except EndpointError Unit) : Reply := ofResult (fun _ => .done) result

end Reply

namespace Server

def onResult? {α : Type} (ok : α → Reply) :
    Option (Except EndpointError α × Server) → Option (Reply × Server) :=
  Option.map fun (result, s) => (Reply.ofResult ok result, s)

def updateDevice? (s : Server) (endpoint : Nat) (change : Device → Device) :
    Option (Reply × Server) :=
  s.onSite? endpoint fun site =>
    let endpoint := { site.endpoint with device := change site.endpoint.device }
    (.nothing, { site with endpoint })

-- An operation that names an endpoint, a channel or a live handle that does not exist is not
-- performed, and neither is one that panics.
def perform? (s : Server) : Operation → Option (Reply × Server)
  | .acquire config plan => onResult? .handle (s.acquire? config plan)
  | .release handle => (s.release? handle).map (.done, ·)
  | .addEndpoint config options plan =>
    let (key, s) := s.addEndpoint config options plan
    some (.endpoint key, s)
  | .setPlan endpoint plan => s.updateDevice? endpoint ({ · with plan })
  | .extendScript endpoint outcomes =>
    s.updateDevice? endpoint fun d => { d with script := d.script ++ outcomes }
  | .grant endpoint writes =>
    s.onSite? endpoint fun site =>
      let (granted, site) := site.grantUpTo writes 0
      (.count granted, site)
  | .openStream endpoint => onResult? (fun _ => .done) (s.trySite? endpoint Site.openStream?)
  | .closeStream endpoint => onResult? (fun _ => .done) (s.onSite? endpoint Site.closeStream)
  | .createChannel endpoint => onResult? .channel (s.createChannel? endpoint)
  | .addChannel id ring =>
    let (key, s) := s.addChannel id ring
    some (.channel key, s)
  | .register endpoint channel => onResult? (fun _ => .done) (s.register? endpoint channel)
  | .unregister endpoint id => s.onSite? endpoint fun site => (.done, site.unregister id)
  | .start endpoint id => onResult? (fun _ => .done) (s.trySite? endpoint (·.start? id))
  | .stop endpoint id => onResult? (fun _ => .done) (s.onSite? endpoint (·.stop id))
  | .setVolume endpoint id volume =>
    onResult? (fun _ => .done) (s.onSite? endpoint (·.setVolume id volume))
  | .disconnectAll endpoint => s.onSite? endpoint fun site => (.nothing, site.disconnectAll)
  | .write channel samples =>
    s.onChannel? channel fun c =>
      let (frames, c) := c.write samples
      (.count frames, c)
  | .pop channel block =>
    s.onChannel? channel fun c =>
      let (frames, block, c) := c.pop block
      (.popped frames block, c)
  | .retarget channel threshold =>
    s.onChannel? channel fun c =>
      match c.retarget? threshold with
      | some c => (.nothing, c)
      | none => (.outOfRange, c)
  | .setGain channel volume bursts =>
    s.onChannel? channel fun c =>
      let c := c.setVolume volume bursts
      (.gain c.volume, c)
  | .disconnect channel => s.onChannel? channel fun c => (.nothing, c.disconnect)
  | .fault channel reason => s.onChannel? channel fun c => (.nothing, c.fault reason)
  | .drainEvents channel =>
    s.onChannel? channel fun c =>
      let (events, c) := c.drain
      (.events events, c)
  | .toggle id => onResult? .state (s.toggle? id)
  | .setLevel id level =>
    let (set, s) := s.setLevel id level
    some (.flag set, s)
  | .drainLog =>
    let (lines, log) := s.log.drain
    some (.lines lines, { s with log })

def perform (s : Server) (op : Operation) : Server := ((s.perform? op).map (·.2)).getD s

def run (s : Server) (ops : List Operation) : Server := ops.foldl perform s

@[simp] theorem run_nil (s : Server) : s.run [] = s := rfl

@[simp] theorem run_cons (s : Server) (op : Operation) (ops : List Operation) :
    s.run (op :: ops) = (s.perform op).run ops := rfl

theorem run_append (s : Server) (first second : List Operation) :
    s.run (first ++ second) = (s.run first).run second := List.foldl_append

end Server

end SharedAudio
