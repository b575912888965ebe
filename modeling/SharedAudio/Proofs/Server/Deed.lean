import SharedAudio.Proofs.Server.Effects

namespace SharedAudio

inductive Site.Deed : Operation → Nat → (Site → Site) → Prop
  | setPlan (k : Nat) (plan : Plan) : Deed (.setPlan k plan) k fun s =>
      { s with endpoint := { s.endpoint with device := { s.endpoint.device with plan } } }
  | extendScript (k : Nat) (outcomes : List Outcome) : Deed (.extendScript k outcomes) k fun s =>
      { s with endpoint := { s.endpoint with device := { s.endpoint.device with
        script := s.endpoint.device.script ++ outcomes } } }
  | openStream (k : Nat) : Deed (.openStream k) k fun s => s.opened
  | closeStream (k : Nat) : Deed (.closeStream k) k fun s => s.closeStream.2
  | unregister (k : Nat) (id : StreamId) : Deed (.unregister k id) k fun s => s.unregister id
  | stop (k : Nat) (id : StreamId) : Deed (.stop k id) k fun s => (s.stop id).2
  | toggle (k : Nat) (id : StreamId) : Deed (.toggle id) k fun s => (s.stop id).2
  | setVolume (k : Nat) (id : StreamId) (volume : Sample) :
      Deed (.setVolume k id volume) k fun s => (s.setVolume id volume).2
  | setLevel (k : Nat) (id : StreamId) (level : Sample) :
      Deed (.setLevel id level) k fun s => (s.setVolume id (Decibel.toLinear level)).2
  | disconnectAll (k : Nat) : Deed (.disconnectAll k) k Site.disconnectAll

inductive Channel.Deed : Operation → Nat → (Channel → Channel) → Prop
  | write (key : Nat) (samples : Array Sample) :
      Deed (.write key samples) key fun c => (c.write samples).2
  | pop (key : Nat) (block : Array Sample) : Deed (.pop key block) key fun c => (c.pop block).2.2
  | retarget (key : Nat) (threshold : Int) :
      Deed (.retarget key threshold) key fun c => (c.retarget? threshold).getD c
  | setGain (key : Nat) (volume : Sample) (bursts : UInt32) :
      Deed (.setGain key volume bursts) key (Channel.setVolume volume bursts)
  | disconnect (key : Nat) : Deed (.disconnect key) key Channel.disconnect
  | fault (key : Nat) (reason : String) : Deed (.fault key reason) key (Channel.fault reason)
  | drainEvents (key : Nat) : Deed (.drainEvents key) key fun c => c.drain.2

def Operation.Tunes : Operation → Prop
  | .setVolume .. | .setLevel .. | .setGain .. => True
  | _ => False

theorem Channel.Deed.keeps {β : Type} {view : Channel → β} {op : Operation} {key : Nat}
    {act : Channel → Channel} (h : Channel.Deed op key act)
    (enter : ∀ (c : Channel) (e : StreamEvent), view (c.enter e) = view c)
    (ring : ∀ (c : Channel) (ring : Ring), view { c with ring } = view c)
    (events : ∀ (c : Channel) (events : List StreamEvent), view { c with events } = view c)
    (aim : op.Tunes → ∀ (c : Channel) (ramp : Ramp), view { c with ramp } = view c)
    (c : Channel) : view (act c) = view c := by
  cases h with
  | write | pop => exact ring c _
  | retarget key threshold =>
    dsimp only
    cases moved : c.retarget? threshold with
    | none => rfl
    | some other =>
      obtain ⟨after, -, rfl⟩ := Option.map_eq_some_iff.mp moved
      exact ring c after
  | setGain => exact aim trivial c _
  | disconnect | fault => exact enter c _
  | drainEvents => exact events c []

theorem Channel.Deed.width {op : Operation} {key : Nat} {act : Channel → Channel}
    (h : Channel.Deed op key act) (c : Channel) : (act c).channels = c.channels := by
  cases h with
  | write | pop | setGain | drainEvents => rfl
  | retarget key threshold =>
    dsimp only
    cases moved : c.retarget? threshold with
    | none => rfl
    | some other =>
      obtain ⟨ring, changed, rfl⟩ := Option.map_eq_some_iff.mp moved
      obtain ⟨attachment, new, rfl⟩ := Option.map_eq_some_iff.mp changed
      obtain ⟨window, -, rfl⟩ := Option.map_eq_some_iff.mp new
      rfl
  | disconnect | fault => exact c.channels_enter _

namespace Server

def letGo (s : Server) (handle : Nat) : Server :=
  { s with handles := s.handles.setIfInBounds handle none }

def Starts (s : Server) (k : Nat) (op : Operation) : Prop :=
  (∃ id, op = .start k id ∧ (s.perform? op).map (·.1) = some .done) ∨
  ∃ id, op = .toggle id ∧ s.find? id = some k ∧
    (s.perform? op).map (·.1) = some (.state .running)

inductive Deed (s : Server) : Operation → Server → Prop
  | still (op : Operation) : Deed s op s
  | acquire (config : StreamConfig) (plan : Plan) :
      Deed s (.acquire config plan) (s.acquired config plan)
  | release (handle k : Nat) (live : s.handles[handle]? = some (some k)) :
      Deed s (.release handle) ((s.letGo handle).unreference k)
  | addEndpoint (config : StreamConfig) (options : Options) (plan : Plan) :
      Deed s (.addEndpoint config options plan) (s.addEndpoint config options plan).2
  | grant (k n : Nat) : Deed s (.grant k n) (s.actOn k fun site => (site.grantUpTo n 0).2)
  | createChannel (k : Nat) (capacity channels : UInt64) :
      Deed s (.createChannel k)
        { (s.addChannel ⟨s.nextStream⟩ (.heap capacity channels)).2 with
          nextStream := s.nextStream + 1 }
  | addChannel (id : StreamId) (ring : Ring) :
      Deed s (.addChannel id ring) (s.addChannel id ring).2
  | register (k key : Nat) (c : Channel) (present : s.channels[key]? = some c) :
      Deed s (.register k key) (s.actOn k fun site => (site.register key c).2)
  | start (op : Operation) (k : Nat) (id : StreamId) (asks : op = .start k id ∨ op = .toggle id)
      (starts : ∀ site, s.site? k = some site →
        (site.start? id).map (·.1) = some (.ok ()) → s.Starts k op) :
      Deed s op (s.actOn k fun site => (site.started id))
  | site (op : Operation) (k : Nat) (act : Site → Site) (deed : Site.Deed op k act) :
      Deed s op (s.actOn k act)
  | channel (op : Operation) (key : Nat) (act : Channel → Channel)
      (deed : Channel.Deed op key act) :
      Deed s op (s.actOnChannel key act)
  | drainLog : Deed s .drainLog { s with log := s.log.drain.2 }

theorem map_reply_start {s : Server} {k : Nat} {site : Site} (found : s.site? k = some site)
    (id : StreamId) :
    (s.perform? (.start k id)).map (·.1) = ((site.start? id).map (·.1)).map Reply.ofUnit := by
  rw [perform?, trySite?, found, Option.bind_some]
  cases site.start? id <;> rfl

theorem deed_perform (s : Server) (op : Operation) : s.Deed op (s.perform op) := by
  cases op with
  | acquire config plan =>
    rw [perform_acquire]
    exact .acquire config plan
  | release handle =>
    simp only [perform, perform?, release?]
    split
    next k live => exact .release handle k live
    · exact .still _
  | addEndpoint config options plan => exact .addEndpoint config options plan
  | setPlan k plan =>
    rw [perform_setPlan]
    exact .site _ k _ (.setPlan k plan)
  | extendScript k outcomes =>
    rw [perform_extendScript]
    exact .site _ k _ (.extendScript k outcomes)
  | grant k writes =>
    rw [perform_grant]
    exact .grant k writes
  | openStream k =>
    rw [perform_openStream]
    exact .site _ k _ (.openStream k)
  | closeStream k =>
    rw [perform_closeStream]
    exact .site _ k _ (.closeStream k)
  | createChannel k =>
    rw [perform_createChannel]
    rcases s.createChannel?_cases k with eq | ⟨capacity, channels, eq⟩
    · rw [eq]
      exact .still _
    · rw [eq]
      exact .createChannel k capacity channels
  | addChannel id ring => exact .addChannel id ring
  | register k key =>
    rw [perform_register]
    split
    · exact .still _
    next c present => exact .register k key c present
  | unregister k id =>
    rw [perform_unregister]
    exact .site _ k _ (.unregister k id)
  | start k id =>
    rw [perform_start]
    refine .start _ k id (.inl rfl) fun site found started => .inl ⟨id, rfl, ?_⟩
    rw [map_reply_start found id, started]
    rfl
  | stop k id =>
    rw [perform_stop]
    exact .site _ k _ (.stop k id)
  | setVolume k id volume =>
    rw [perform_setVolume]
    exact .site _ k _ (.setVolume k id volume)
  | disconnectAll k =>
    rw [perform_disconnectAll]
    exact .site _ k _ (.disconnectAll k)
  | write key samples =>
    rw [perform_write]
    exact .channel _ key _ (.write key samples)
  | pop key block =>
    rw [perform_pop]
    exact .channel _ key _ (.pop key block)
  | retarget key threshold =>
    rw [perform_retarget]
    exact .channel _ key _ (.retarget key threshold)
  | setGain key volume bursts =>
    rw [perform_setGain]
    exact .channel _ key _ (.setGain key volume bursts)
  | disconnect key =>
    rw [perform_disconnect]
    exact .channel _ key _ (.disconnect key)
  | fault key reason =>
    rw [perform_fault]
    exact .channel _ key _ (.fault key reason)
  | drainEvents key =>
    rw [perform_drainEvents]
    exact .channel _ key _ (.drainEvents key)
  | toggle id =>
    rcases s.perform_toggle id with eq | ⟨k, eq | ⟨found, eq, starts⟩⟩
    · rw [eq]
      exact .still _
    · rw [eq]
      exact .site _ k _ (.toggle k id)
    · rw [eq]
      exact .start _ k id (.inr rfl) fun site there started =>
        .inr ⟨id, rfl, found, starts site there started⟩
  | setLevel id level =>
    rcases s.perform_setLevel id level with ⟨-, eq⟩ | ⟨k, -, eq⟩
    · rw [eq]
      exact .still _
    · rw [eq]
      exact .site _ k _ (.setLevel k id level)
  | drainLog => exact .drainLog

end Server

end SharedAudio
