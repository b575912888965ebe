import SharedAudio.Proofs.Endpoint.Past
import SharedAudio.Proofs.Server.Work

namespace SharedAudio

structure Blur where
  calls : Array Call → Array Call → Prop
  refl : ∀ a, calls a a
  append : ∀ {a b} (more : Array Call), calls a b → calls (a ++ more) (b ++ more)
  waiting : Nat → List StreamEvent → List StreamEvent
  told : ∀ key events e, waiting key (Channel.tell events e) = Channel.tell (waiting key events) e

namespace Blur

variable (b : Blur)

def past (number : Nat) (calls : Array Call) : Past := ⟨number, calls, b.waiting, b.told⟩

def channels (all : Array Channel) : Array Channel := (b.past 0 #[]).channels all

end Blur

theorem Past.told_id (_key : Nat) (events : List StreamEvent) (e : StreamEvent) :
    id (Channel.tell events e) = Channel.tell (id events) e := rfl

def Past.whole (number : Nat) (calls : Array Call) : Past :=
  ⟨number, calls, fun _ => id, Past.told_id⟩

theorem Past.channels_whole (number : Nat) (calls : Array Call) (all : Array Channel) :
    (whole number calls).channels all = all := by
  apply Array.ext_getElem?
  intro i
  rw [getElem?_channels]
  cases all[i]? <;> rfl

structure Endpoint.Like (b : Blur) (e f : Endpoint) : Prop where
  same : { f with device := e.device } = e
  plan : f.device.plan = e.device.plan
  script : f.device.script = e.device.script
  calls : b.calls e.device.calls f.device.calls

def Endpoint.bare (e : Endpoint) : Endpoint :=
  { e with device := { e.device with number := 0, calls := #[] } }

namespace Endpoint

variable {b : Blur} {e f : Endpoint}

theorem bare_after (e : Endpoint) :
    e.bare.after (.whole e.device.number e.device.calls) = e := by
  simp [bare, after, Device.after, Past.whole]

theorem Like.bare_after (h : e.Like b f) :
    e.bare.after (b.past f.device.number f.device.calls) = f := by
  obtain ⟨same, plan, script, -⟩ := h
  rw [← same]
  simp [bare, after, Device.after, Blur.past, ← plan, ← script]

theorem like_after (e : Endpoint) (n l : Nat) {c d : Array Call} (h : b.calls c d) :
    (e.after (.whole n c)).Like b (e.after (b.past l d)) :=
  ⟨rfl, rfl, rfl, b.append _ h⟩

end Endpoint

namespace Server

def reply? (s : Server) (op : Operation) : Option Reply := (s.perform? op).map (·.1)

structure Like (b : Blur) (s t : Server) : Prop where
  options : t.options = s.options
  held : t.held = s.held
  handles : t.handles = s.handles
  nextStream : t.nextStream = s.nextStream
  log : t.log = s.log
  channels : t.channels = b.channels s.channels
  size : t.endpoints.size = s.endpoints.size
  endpoints : ∀ (k : Nat) (e f : Endpoint), s.endpoints[k]? = some e → t.endpoints[k]? = some f →
    e.Like b f

inductive Agree (b : Blur) {α : Type} : Option (α × Server) → Option (α × Server) → Prop
  | none : Agree b none none
  | some (answer : α) {s t : Server} (like : s.Like b t) :
      Agree b (some (answer, s)) (some (answer, t))

variable {b : Blur} {s t : Server} {α β : Type}

theorem Agree.map {first second : Option (α × Server)} (h : Agree b first second) (f : α → β) :
    Agree b (first.map fun r => (f r.1, r.2)) (second.map fun r => (f r.1, r.2)) := by
  cases h with
  | none => exact .none
  | some answer like => exact .some (f answer) like

namespace Like

theorem of_channels (same : t = { s with channels := t.channels })
    (channels : t.channels = b.channels s.channels) : s.Like b t := by
  rw [same]
  refine ⟨rfl, rfl, rfl, rfl, rfl, channels, rfl, fun k e f there there' => ?_⟩
  rw [show s.endpoints[k]? = some f from there'] at there
  cases there
  exact ⟨rfl, rfl, rfl, b.refl _⟩

theorem endpoint (h : s.Like b t) (k : Nat) :
    s.endpoints[k]? = none ∧ t.endpoints[k]? = none ∨
      ∃ e f, s.endpoints[k]? = some e ∧ t.endpoints[k]? = some f ∧ e.Like b f := by
  by_cases inside : k < s.endpoints.size
  · have there := Array.getElem?_eq_getElem inside
    have there' := Array.getElem?_eq_getElem (h.size ▸ inside : k < t.endpoints.size)
    exact .inr ⟨_, _, there, there', h.endpoints k _ _ there there'⟩
  · exact .inl ⟨Array.getElem?_eq_none (by omega),
      Array.getElem?_eq_none (by rw [h.size]; omega)⟩

theorem sites (h : s.Like b t) (k : Nat) : s.site? k = none ∧ t.site? k = none ∨
    ∃ (site : Site) (n l : Nat) (c d : Array Call), s.site? k = some (site.after (.whole n c)) ∧
      t.site? k = some (site.after (b.past l d)) ∧ b.calls c d := by
  rcases h.endpoint k with ⟨none, none'⟩ | ⟨e, f, there, there', like⟩
  · exact .inl ⟨by rw [site?, none]; rfl, by rw [site?, none']; rfl⟩
  · refine .inr ⟨⟨e.bare, s.channels, s.log⟩, e.device.number, f.device.number, _, _, ?_, ?_,
      like.calls⟩
    · rw [site?_of_endpoint there, Site.after, e.bare_after, Past.channels_whole]
    · rw [site?_of_endpoint there', Site.after, like.bare_after, h.channels, h.log]
      rfl

theorem putSite (h : s.Like b t) (k : Nat) (site : Site) (n l : Nat) {c d : Array Call}
    (calls : b.calls c d) :
    (s.putSite k (site.after (.whole n c))).Like b (t.putSite k (site.after (b.past l d))) where
  options := h.options
  held := h.held
  handles := h.handles
  nextStream := h.nextStream
  log := rfl
  channels := by
    change (b.past l d).channels _ = b.channels ((Past.whole n c).channels _)
    rw [Past.channels_whole]
    rfl
  size := by simp [h.size]
  endpoints i e f there there' := by
    rw [endpoints_putSite] at there there'
    split at there
    next same =>
      rw [if_pos same] at there'
      obtain ⟨-, -, rfl⟩ := Option.map_eq_some_iff.mp there
      obtain ⟨-, -, rfl⟩ := Option.map_eq_some_iff.mp there'
      exact Endpoint.like_after _ _ _ calls
    next different =>
      rw [if_neg different] at there'
      exact h.endpoints i e f there there'

theorem onSite? (h : s.Like b t) (k : Nat) {act : Site → α × Site}
    (blind : ∀ (site : Site) p, act (site.after p) = ((act site).1, (act site).2.after p)) :
    Agree b (s.onSite? k act) (t.onSite? k act) := by
  rcases h.sites k with ⟨none, none'⟩ | ⟨site, n, l, c, d, near, far, calls⟩
  · rw [Server.onSite?, Server.onSite?, none, none']
    exact .none
  · rw [Server.onSite?, Server.onSite?, near, far, Option.map_some, Option.map_some, blind, blind]
    exact .some _ (h.putSite k _ _ _ calls)

theorem trySite? (h : s.Like b t) (k : Nat) {act : Site → Option (α × Site)}
    (blind : ∀ (site : Site) p, act (site.after p) =
      (act site).map fun (answer, site) => (answer, site.after p)) :
    Agree b (s.trySite? k act) (t.trySite? k act) := by
  rcases h.sites k with ⟨none, none'⟩ | ⟨site, n, l, c, d, near, far, calls⟩
  · rw [Server.trySite?, Server.trySite?, none, none']
    exact .none
  · rw [Server.trySite?, Server.trySite?, near, far, Option.bind_some, Option.bind_some,
      blind, blind]
    cases act site with
    | none => exact .none
    | some answered => exact .some _ (h.putSite k _ _ _ calls)

theorem actOn (h : s.Like b t) (k : Nat) {act : Site → Site}
    (blind : ∀ (site : Site) p, act (site.after p) = (act site).after p) :
    (s.actOn k act).Like b (t.actOn k act) := by
  rcases h.sites k with ⟨none, none'⟩ | ⟨site, n, l, c, d, near, far, calls⟩
  · rwa [actOn_of_none none, actOn_of_none none']
  · rw [actOn_of_site near, actOn_of_site far, blind, blind]
    exact h.putSite k _ _ _ calls

theorem onChannel? (h : s.Like b t) (key : Nat) {act : Channel → α × Channel}
    (blind : ∀ c : Channel, act (c.after (b.past 0 #[]) key) =
      ((act c).1, (act c).2.after (b.past 0 #[]) key)) :
    Agree b (s.onChannel? key act) (t.onChannel? key act) := by
  rw [Server.onChannel?, Server.onChannel?, h.channels, Blur.channels, Past.getElem?_channels,
    Option.map_map]
  cases s.channels[key]? with
  | none => exact .none
  | some c =>
    simp only [Option.map_some, Function.comp_apply, blind]
    refine .some _ ⟨h.options, h.held, h.handles, h.nextStream, h.log, ?_, h.size, h.endpoints⟩
    exact Past.setIfInBounds_channels _ _ _ _

theorem setReferences (h : s.Like b t) (k : Nat) (count : UInt64) :
    (s.setReferences k count).Like b (t.setReferences k count) where
  options := h.options
  held := h.held
  handles := h.handles
  nextStream := h.nextStream
  log := h.log
  channels := h.channels
  size := by simp [Server.setReferences, h.size]
  endpoints i e f there there' := by
    rw [Server.setReferences, Array.getElem?_modify] at there there'
    split at there
    next same =>
      rw [if_pos same] at there'
      obtain ⟨e, was, rfl⟩ := Option.map_eq_some_iff.mp there
      obtain ⟨f, was', rfl⟩ := Option.map_eq_some_iff.mp there'
      obtain ⟨same, plan, script, calls⟩ := h.endpoints i e f was was'
      exact ⟨congrArg (fun e : Endpoint => { e with references := count }) same, plan, script,
        calls⟩
    next different =>
      rw [if_neg different] at there'
      exact h.endpoints i e f there there'

theorem references (h : s.Like b t) (k : Nat) : t.references k = s.references k := by
  rw [Server.references, Server.references]
  rcases h.endpoint k with ⟨none, none'⟩ | ⟨e, f, there, there', like⟩
  · rw [none, none']
  · rw [there, there', ← like.same]
    rfl

theorem pushEndpoint (h : s.Like b t) {e f : Endpoint} (like : e.Like b f) :
    ({ s with endpoints := s.endpoints.push e } : Server).Like b
      { t with endpoints := t.endpoints.push f } where
  options := h.options
  held := h.held
  handles := h.handles
  nextStream := h.nextStream
  log := h.log
  channels := h.channels
  size := by simp [h.size]
  endpoints i e' f' there there' := by
    rw [Array.getElem?_push] at there there'
    rw [h.size] at there'
    split at there
    next last =>
      rw [if_pos last] at there'
      cases there
      cases there'
      exact like
    next earlier =>
      rw [if_neg earlier] at there'
      exact h.endpoints i e' f' there there'

theorem pushChannel (h : s.Like b t) (unread : b.waiting s.channels.size [] = []) (id : StreamId)
    (ring : Ring) : (s.addChannel id ring).2.Like b (t.addChannel id ring).2 where
  options := h.options
  held := h.held
  handles := h.handles
  nextStream := h.nextStream
  log := h.log
  size := h.size
  endpoints := h.endpoints
  channels := by
    have new : b.channels (s.channels.push { id, ring }) =
        (b.channels s.channels).push { id, ring } := by
      rw [Blur.channels, Past.channels, Array.mapIdx_push]
      congr 1
      exact congrArg (fun events => { id, ring, events : Channel }) unread
    rw [addChannel, addChannel]
    change t.channels.push _ = _
    rw [h.channels, new]

theorem find? (h : s.Like b t) (id : StreamId) : t.find? id = s.find? id := by
  rw [Server.find?, Server.find?, h.held]
  congr 1
  funext k
  rcases h.sites k with ⟨none, none'⟩ | ⟨site, n, l, c, d, near, far, -⟩
  · rw [none, none']
  · rw [near, far]
    simp only [Option.any_some, Site.ids_after]

theorem isRunning (h : s.Like b t) (k : Nat) (id : StreamId) :
    t.isRunning k id = s.isRunning k id := by
  rw [Server.isRunning, Server.isRunning]
  rcases h.sites k with ⟨none, none'⟩ | ⟨site, n, l, c, d, near, far, -⟩
  · rw [none, none']
  · rw [near, far]
    simp only [Option.any_some]
    rw [Site.any_registered_after _ _ fun _ _ => rfl, Site.any_registered_after _ _ fun _ _ => rfl]

theorem sharable? (h : s.Like b t) (config : StreamConfig) :
    t.sharable? config = s.sharable? config := by
  rw [Server.sharable?, Server.sharable?, h.held]
  congr 1
  funext k
  rcases h.endpoint k with ⟨none, none'⟩ | ⟨e, f, there, there', like⟩
  · rw [none, none']
  · rw [there, there', ← like.same]
    rfl

theorem unlist (h : s.Like b t) (k : Nat) : (s.unlist k).Like b (t.unlist k) :=
  ⟨h.options, congrArg (List.filter (· != k)) h.held, h.handles, h.nextStream, h.log, h.channels,
    h.size, h.endpoints⟩

theorem letGo (h : s.Like b t) (handle : Nat) : (s.letGo handle).Like b (t.letGo handle) :=
  ⟨h.options, h.held, congrArg (·.setIfInBounds handle none) h.handles, h.nextStream, h.log,
    h.channels, h.size, h.endpoints⟩

theorem unreference (h : s.Like b t) (k : Nat) : (s.unreference k).Like b (t.unreference k) := by
  have retired (count : UInt64) : ((s.setReferences k count).retire k).Like b
      ((t.setReferences k count).retire k) :=
    ((h.setReferences k count).unlist k).actOn k fun site p => by
      rw [Site.closeStream_after, Site.announce_after]
  rw [Server.unreference, Server.unreference, h.references]
  generalize (if s.references k = 0 then 0 else s.references k - 1) = count
  split
  · exact retired count
  · exact h.setReferences k count

theorem release? (h : s.Like b t) (handle : Nat) :
    s.release? handle = none ∧ t.release? handle = none ∨ ∃ s' t', s.release? handle = some s' ∧
      t.release? handle = some t' ∧ s'.Like b t' := by
  have same : t.handles[handle]? = s.handles[handle]? := by rw [h.handles]
  rw [Server.release?, Server.release?, same]
  split
  next k _ => exact .inr ⟨_, _, rfl, rfl, (h.letGo handle).unreference k⟩
  next => exact .inl ⟨rfl, rfl⟩

theorem addHandle (h : s.Like b t) (k : Nat) :
    (t.addHandle k).1 = (s.addHandle k).1 ∧ (s.addHandle k).2.Like b (t.addHandle k).2 :=
  ⟨congrArg Array.size h.handles, h.options, h.held, congrArg (·.push (some k)) h.handles,
    h.nextStream, h.log, h.channels, h.size, h.endpoints⟩

theorem sizes (h : s.Like b t) : t.channels.size = s.channels.size := by
  rw [h.channels, Blur.channels, Past.channels, Array.size_mapIdx]

theorem handed (h : s.Like b t) {k l : Nat} (same : l = k) :
    Agree b (some ((.ok (s.addHandle k).1 : Except EndpointError Nat), (s.addHandle k).2))
      (some (.ok (t.addHandle l).1, (t.addHandle l).2)) := by
  rw [same, (h.addHandle k).1]
  exact .some _ (h.addHandle k).2

theorem acquire? (h : s.Like b t) (config : StreamConfig) (plan : Plan) :
    Agree b (s.acquire? config plan) (t.acquire? config plan) := by
  let fresh : Site :=
    ⟨{ config, options := s.options, device := { number := 0, plan } }, s.channels, s.log⟩
  have near : Site.mk { config, options := s.options, device := s.newDevice plan } s.channels
      s.log = fresh.after (.whole s.deviceCount #[]) := by
    rw [Site.after, Past.channels_whole]
    rfl
  have far : Site.mk { config, options := t.options, device := t.newDevice plan } t.channels
      t.log = fresh.after (b.past t.deviceCount #[]) := by
    rw [h.options, h.channels, h.log]
    rfl
  rw [Server.acquire?, Server.acquire?, h.sharable?]
  cases s.sharable? config with
  | some k =>
    dsimp only
    rw [h.references]
    exact (h.setReferences k _).handed rfl
  | none =>
    simp only [near, far, Site.openStream?_after]
    rcases fresh.openStream? with _ | ⟨error | _, site⟩
    · exact .none
    · exact .some _ ⟨h.options, h.held, h.handles, h.nextStream, rfl, h.channels, h.size,
        h.endpoints⟩
    · have like : Endpoint.Like b
          { (site.after (.whole s.deviceCount #[])).endpoint with references := 1 }
          { (site.after (b.past t.deviceCount #[])).endpoint with references := 1 } :=
        ⟨rfl, rfl, rfl, b.append _ (b.refl #[])⟩
      have pushed := h.pushEndpoint like
      have booked : Server.Like b
          { s with
            endpoints := s.endpoints.push _
            held := s.held ++ [s.endpoints.size]
            log := site.log }
          { t with
            endpoints := t.endpoints.push _
            held := t.held ++ [t.endpoints.size]
            log := site.log } :=
        ⟨h.options, by rw [h.held, h.size], h.handles, h.nextStream, rfl, h.channels, pushed.size,
          pushed.endpoints⟩
      exact booked.handed h.size

theorem createChannel? (h : s.Like b t) (unread : b.waiting s.channels.size [] = []) (k : Nat) :
    Agree b (s.createChannel? k) (t.createChannel? k) := by
  rw [Server.createChannel?, Server.createChannel?]
  rcases h.endpoint k with ⟨none, none'⟩ | ⟨e, f, there, there', like⟩
  · rw [none, none']
    exact .none
  · have unseen : f.line? = e.line? ∧ f.config = e.config ∧
        f.channelCapacity? = e.channelCapacity? := by
      rw [← like.same]
      exact ⟨rfl, rfl, rfl⟩
    obtain ⟨line, config, capacity⟩ := unseen
    rw [there, there', Option.bind_some, Option.bind_some, line, config, capacity, h.nextStream]
    cases e.line? with
    | none => exact .some _ h
    | some line =>
      dsimp only [Option.bind_eq_bind]
      rcases e.channelCapacity? line with _ | capacity
      · exact .none
      dsimp only [Option.bind_some]
      rcases Ring.heap? capacity e.config.channels with _ | ring
      · exact .none
      obtain ⟨options, held, handles, -, log, channels, size, endpoints⟩ :=
        h.pushChannel unread ⟨s.nextStream⟩ ring
      simp only [addChannel, h.sizes]
      exact .some _ ⟨options, held, handles, congrArg (· + 1) h.nextStream, log, channels, size,
        endpoints⟩

theorem register? (h : s.Like b t) (k channel : Nat) :
    Agree b (s.register? k channel) (t.register? k channel) := by
  have there : t.channels[channel]? =
      s.channels[channel]?.map (·.after (b.past 0 #[]) channel) := by
    rw [h.channels, Blur.channels, Past.getElem?_channels]
  rw [Server.register?, Server.register?, there]
  cases s.channels[channel]? with
  | none => exact .none
  | some c => exact h.onSite? k fun site p => site.register_after p channel c

theorem toggled {first second : Option (Except EndpointError Unit × Server)}
    (agree : Agree b first second) (state : ChannelState) :
    Agree b (Server.toggled state first) (Server.toggled state second) := agree.map _

theorem toggle? (h : s.Like b t) (id : StreamId) : Agree b (s.toggle? id) (t.toggle? id) := by
  have same := h.find? id
  cases found : s.find? id with
  | none =>
    rw [toggle?_of_unknown found, toggle?_of_unknown (same.trans found)]
    exact .some _ h
  | some k =>
    have alike := h.isRunning k id
    cases running : s.isRunning k id with
    | true =>
      rw [toggle?_of_running found running,
        toggle?_of_running (same.trans found) (alike.trans running)]
      exact toggled (h.onSite? k fun site p => site.stop_after p id) .stopped
    | false =>
      rw [toggle?_of_resting found running,
        toggle?_of_resting (same.trans found) (alike.trans running)]
      exact toggled (h.trySite? k fun site p => site.start?_after p id) .running

theorem setLevel (h : s.Like b t) (id : StreamId) (level : Sample) :
    Agree b (some (s.setLevel id level)) (some (t.setLevel id level)) := by
  rw [Server.setLevel, Server.setLevel, h.find?]
  cases s.find? id with
  | none => exact .some _ h
  | some k =>
    have agree : Agree b (s.onSite? k (·.setVolume id (Decibel.toLinear level)))
        (t.onSite? k (·.setVolume id (Decibel.toLinear level))) :=
      h.onSite? k fun site p => site.setVolume_after p id _
    dsimp only
    generalize s.onSite? k _ = first, t.onSite? k _ = second at agree ⊢
    cases agree with
    | none => exact .some _ h
    | some answer like =>
      cases answer with
      | error => exact .some _ h
      | ok => exact .some _ like

theorem updateDevice? (h : s.Like b t) (k : Nat) {change : Device → Device}
    (blind : ∀ (d : Device) p, change (d.after p) = (change d).after p) :
    Agree b (s.updateDevice? k change) (t.updateDevice? k change) := by
  refine h.onSite? k fun site p => Prod.ext rfl ?_
  change Site.mk { site.endpoint.after p with
    device := change (site.endpoint.device.after p) } _ _ = _
  rw [blind]
  rfl

theorem perform? (h : s.Like b t) (unread : b.waiting s.channels.size [] = []) (op : Operation)
    (heard : ∀ key, op = .drainEvents key → ∀ events, b.waiting key events = events) :
    Agree b (s.perform? op) (t.perform? op) := by
  cases op <;> simp only [Server.perform?]
  case acquire config plan => exact (h.acquire? config plan).map _
  case release handle =>
    rcases h.release? handle with ⟨none, none'⟩ | ⟨s', t', some, some', like⟩
    · rw [none, none']
      exact .none
    · rw [some, some']
      exact .some _ like
  case addEndpoint config options plan =>
    have pushed := h.pushEndpoint (e := { config, options, device := s.newDevice plan })
      (f := { config, options, device := t.newDevice plan }) ⟨rfl, rfl, rfl, b.refl _⟩
    rw [Server.addEndpoint, Server.addEndpoint, h.size]
    exact .some _ pushed
  case setPlan k plan => exact h.updateDevice? k fun _ _ => rfl
  case extendScript k outcomes => exact h.updateDevice? k fun _ _ => rfl
  case grant k writes => exact h.onSite? k fun site p => by rw [Site.grantUpTo_after]
  case openStream k => exact (h.trySite? k fun site p => site.openStream?_after p).map _
  case closeStream k => exact (h.onSite? k fun site p => site.closeStream_after p).map _
  case createChannel k => exact (h.createChannel? unread k).map _
  case addChannel id ring =>
    have pushed := h.pushChannel unread id ring
    rw [addChannel, addChannel] at pushed ⊢
    rw [h.sizes]
    exact .some _ pushed
  case register k channel => exact (h.register? k channel).map _
  case unregister k id =>
    exact h.onSite? k fun site p => Prod.ext rfl (site.unregister_after p id)
  case start k id => exact (h.trySite? k fun site p => site.start?_after p id).map _
  case stop k id => exact (h.onSite? k fun site p => site.stop_after p id).map _
  case setVolume k id volume =>
    exact (h.onSite? k fun site p => site.setVolume_after p id volume).map _
  case disconnectAll k => exact h.onSite? k fun site p => Prod.ext rfl (site.disconnectAll_after p)
  case write channel samples => exact h.onChannel? channel fun _ => rfl
  case pop channel block => exact h.onChannel? channel fun _ => rfl
  case retarget channel value =>
    refine h.onChannel? channel fun c => ?_
    simp only [Channel.retarget?, show (c.after (b.past 0 #[]) channel).ring = c.ring from rfl]
    cases c.ring.retarget? value <;> rfl
  case setGain channel volume bursts => exact h.onChannel? channel fun _ => rfl
  case disconnect channel =>
    exact h.onChannel? channel fun c => Prod.ext rfl (c.enter_after _ channel _)
  case fault channel reason =>
    exact h.onChannel? channel fun c => Prod.ext rfl (c.enter_after _ channel _)
  case drainEvents channel =>
    have same (c : Channel) : c.after (b.past 0 #[]) channel = c :=
      congrArg (fun events => { c with events }) (heard channel rfl c.events)
    exact h.onChannel? channel fun c => by rw [same, same]
  case toggle id => exact (h.toggle? id).map _
  case setLevel id level => exact (h.setLevel id level).map _
  case drainLog =>
    rw [h.log]
    exact .some _ ⟨h.options, h.held, h.handles, h.nextStream, rfl, h.channels, h.size, h.endpoints⟩

theorem perform (h : s.Like b t) (unread : b.waiting s.channels.size [] = []) (op : Operation)
    (heard : ∀ key, op = .drainEvents key → ∀ events, b.waiting key events = events) :
    t.reply? op = s.reply? op ∧ (s.perform op).Like b (t.perform op) := by
  have agree := h.perform? unread op heard
  rw [reply?, reply?, Server.perform, Server.perform]
  generalize s.perform? op = first, t.perform? op = second at agree
  cases agree with
  | none => exact ⟨rfl, h⟩
  | some answer like => exact ⟨rfl, like⟩

end Like

end Server

end SharedAudio
