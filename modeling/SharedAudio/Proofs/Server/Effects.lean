import SharedAudio.Proofs.Endpoint.Effects
import SharedAudio.Server.Operation

namespace SharedAudio.Server

def actOn (s : Server) (key : Nat) (act : Site → Site) : Server :=
  ((s.site? key).map fun site => s.putSite key (act site)).getD s

def actOnChannel (s : Server) (key : Nat) (act : Channel → Channel) : Server :=
  (s.channels[key]?.map fun c =>
    { s with channels := s.channels.setIfInBounds key (act c) }).getD s

variable {s : Server} {key : Nat}

theorem actOn_of_site {site : Site} (h : s.site? key = some site) (act : Site → Site) :
    s.actOn key act = s.putSite key (act site) := by
  rw [actOn, h]
  rfl

theorem actOn_of_none (h : s.site? key = none) (act : Site → Site) : s.actOn key act = s := by
  rw [actOn, h]
  rfl

theorem putSite_self {site : Site} (h : s.site? key = some site) : s.putSite key site = s := by
  obtain ⟨e, there, rfl⟩ := Option.map_eq_some_iff.mp h
  obtain ⟨inside, rfl⟩ := Array.getElem?_eq_some_iff.mp there
  rw [putSite, Array.setIfInBounds_def, dif_pos inside, Array.set_getElem_self]

theorem actOn_self (s : Server) (key : Nat) : (s.actOn key fun site => site) = s := by
  cases found : s.site? key with
  | none => exact actOn_of_none found _
  | some site =>
    rw [actOn_of_site found]
    exact putSite_self found

theorem actOn_actOn (s : Server) (key : Nat) (first second : Site → Site) :
    (s.actOn key first).actOn key second = s.actOn key (second ∘ first) := by
  cases found : s.site? key with
  | none => rw [actOn_of_none found, actOn_of_none found, actOn_of_none found]
  | some site =>
    obtain ⟨e, there, -⟩ := Option.map_eq_some_iff.mp found
    have inside := (Array.getElem?_eq_some_iff.mp there).1
    rw [actOn_of_site found, actOn_of_site found, actOn_of_site (site?_putSite inside)]
    simp [putSite]

theorem actOnChannel_of_channel {c : Channel} (h : s.channels[key]? = some c)
    (act : Channel → Channel) : s.actOnChannel key act =
      { s with channels := s.channels.setIfInBounds key (act c) } := by
  rw [actOnChannel, h]
  rfl

theorem actOnChannel_of_none (h : s.channels[key]? = none) (act : Channel → Channel) :
    s.actOnChannel key act = s := by
  rw [actOnChannel, h]
  rfl

theorem getElem?_actOnChannel (s : Server) (key l : Nat) (act : Channel → Channel) :
    (s.actOnChannel key act).channels[l]? =
      if key = l then s.channels[l]?.map act else s.channels[l]? := by
  cases found : s.channels[key]? with
  | none =>
    rw [actOnChannel_of_none found]
    split
    next same =>
      rw [← same, found]
      rfl
    next => rfl
  | some c =>
    rw [actOnChannel_of_channel found, Array.getElem?_setIfInBounds]
    split
    next same =>
      rw [← same, found, if_pos (Array.getElem?_eq_some_iff.mp found).1]
      rfl
    next => rfl

theorem map_actOnChannel {α : Type} {f : Channel → α} (s : Server) (key : Nat)
    {act : Channel → Channel} (keeps : ∀ c, f (act c) = f c) (l : Nat) :
    (s.actOnChannel key act).channels[l]?.map f = s.channels[l]?.map f := by
  rw [getElem?_actOnChannel]
  split
  · rw [Option.map_map]
    congr 1
    funext c
    exact keeps c
  · rfl

theorem actOnChannel_eq (s : Server) (key : Nat) (act : Channel → Channel) :
    s.actOnChannel key act = { s with channels := (s.actOnChannel key act).channels } := by
  cases found : s.channels[key]? with
  | none => rw [actOnChannel_of_none found]
  | some c => rw [actOnChannel_of_channel found]

@[simp] theorem endpoints_actOnChannel (s : Server) (key : Nat) (act : Channel → Channel) :
    (s.actOnChannel key act).endpoints = s.endpoints := by
  rw [actOnChannel_eq]

def acquired (s : Server) (config : StreamConfig) (plan : Plan) : Server :=
  ((s.acquire? config plan).map (·.2)).getD s

inductive Acquired (s : Server) (config : StreamConfig) (plan : Plan) :
    Option (Except EndpointError Nat) → Server → Prop
  | shared (k : Nat) (e : Endpoint) (held : k ∈ s.held) (there : s.endpoints[k]? = some e)
      (usable : e.usable = true) (serves : e.config.serves config = true) :
      Acquired s config plan (some (.ok s.handles.size)) { s with
        endpoints := s.endpoints.modify k ({ · with references := e.references + 1 })
        handles := s.handles.push (some k) }
  | panicked (unshared : s.sharable? config = none)
      (opening : (Site.mk { config, options := s.options, device := s.newDevice plan } s.channels
        s.log).openStream? = none) : Acquired s config plan none s
  | refused (error : EndpointError) (site : Site) (unshared : s.sharable? config = none)
      (opening : (Site.mk { config, options := s.options, device := s.newDevice plan } s.channels
        s.log).openStream? = some (.error error, site)) :
      Acquired s config plan (some (.error error)) { s with
        refused := s.refused.push site.endpoint.device, log := site.log }
  | fresh (site : Site) (unshared : s.sharable? config = none)
      (opening : (Site.mk { config, options := s.options, device := s.newDevice plan } s.channels
        s.log).openStream? = some (.ok (), site)) :
      Acquired s config plan (some (.ok s.handles.size)) { s with
        endpoints := s.endpoints.push { site.endpoint with references := 1 }
        held := s.held ++ [s.endpoints.size]
        handles := s.handles.push (some s.endpoints.size)
        log := site.log }

theorem sharable_of_eq_some {config : StreamConfig} {k : Nat}
    (h : s.sharable? config = some k) :
    k ∈ s.held ∧
      ∃ e, s.endpoints[k]? = some e ∧ e.usable = true ∧ e.config.serves config = true := by
  refine ⟨List.mem_of_find?_eq_some h, ?_⟩
  have fits := List.find?_some h
  cases there : s.endpoints[k]? with
  | none => simp [there] at fits
  | some e => exact ⟨e, rfl, by simpa [there] using fits⟩

theorem sharable?_eq_none_iff {config : StreamConfig} : s.sharable? config = none ↔
    ∀ k ∈ s.held, ∀ e, s.endpoints[k]? = some e → e.usable = true →
      e.config.serves config = false := by
  rw [sharable?, List.find?_eq_none]
  refine forall₂_congr fun k _ => ?_
  cases s.endpoints[k]? <;> simp

theorem references_of_endpoint {k : Nat} {e : Endpoint} (there : s.endpoints[k]? = some e) :
    s.references k = e.references := by
  rw [references, there]
  rfl

theorem acquired_acquire (s : Server) (config : StreamConfig) (plan : Plan) :
    s.Acquired config plan ((s.acquire? config plan).map (·.1)) (s.acquired config plan) := by
  rw [acquired]
  unfold acquire?
  split
  next k shared =>
    obtain ⟨held, e, there, usable, serves⟩ := sharable_of_eq_some shared
    rw [references_of_endpoint there]
    exact .shared k e held there usable serves
  next unshared =>
    dsimp only
    cases opening : Site.openStream?
      ⟨{ config, options := s.options, device := s.newDevice plan }, s.channels, s.log⟩ with
    | none => exact .panicked unshared opening
    | some answered =>
      obtain ⟨error | _, site⟩ := answered
      · exact .refused error site unshared opening
      · exact .fresh site unshared opening

theorem acquired_cases (s : Server) (config : StreamConfig) (plan : Plan) :
    ∃ answer, s.Acquired config plan answer (s.acquired config plan) :=
  ⟨_, s.acquired_acquire config plan⟩

theorem channels_acquire (s : Server) (config : StreamConfig) (plan : Plan) :
    (s.acquired config plan).channels = s.channels := by
  obtain ⟨answer, acquired⟩ := s.acquired_cases config plan
  generalize s.acquired config plan = t at acquired ⊢
  cases acquired <;> rfl

private theorem onSite?_actOn (s : Server) (key : Nat) {α : Type} (act : Site → α × Site) :
    ((s.onSite? key act).map (·.2)).getD s = s.actOn key (act · |>.2) := by
  cases found : s.site? key <;> simp [onSite?, actOn, found]

theorem trySite?_actOn (s : Server) (key : Nat) {α : Type} (act : Site → Option (α × Site)) :
    ((s.trySite? key act).map (·.2)).getD s =
      s.actOn key fun site => ((act site).map (·.2)).getD site := by
  cases found : s.site? key with
  | none =>
    rw [trySite?, found, actOn_of_none found, Option.bind_none, Option.map_none,
      Option.getD_none]
  | some site =>
    rw [trySite?, found, actOn_of_site found, Option.bind_some]
    cases act site with
    | none => exact (putSite_self found).symm
    | some answered => rfl

def toggled (state : ChannelState) : Option (Except EndpointError Unit × Server) →
    Option (Except EndpointError ChannelState × Server) :=
  Option.map fun (answer, t) => (answer.map fun _ => state, t)

section Toggled

variable {s : Server} {id : StreamId} {key : Nat}

theorem toggle?_of_running (found : s.find? id = some key) (running : s.isRunning key id = true) :
    s.toggle? id = toggled .stopped (s.onSite? key (·.stop id)) := by
  rw [toggle?, found]
  simp only [running, if_true]
  rfl

theorem toggle?_of_resting (found : s.find? id = some key) (resting : s.isRunning key id = false) :
    s.toggle? id = toggled .running (s.trySite? key (·.start? id)) := by
  rw [toggle?, found]
  simp only [resting, Bool.false_eq_true, if_false]
  rfl

theorem map_toggled (state : ChannelState) (result : Option (Except EndpointError Unit × Server)) :
    (toggled state result).map (·.2) = result.map (·.2) := by
  cases result <;> rfl

end Toggled

theorem createChannel?_of_opened {e : Endpoint} {line : Line} (there : s.endpoints[key]? = some e)
    (opened : e.phase = .opened line) : s.createChannel? key =
      ((e.channelCapacity? line).bind (Ring.heap? · e.config.channels)).map fun ring =>
        (.ok s.channels.size,
          { (s.addChannel ⟨s.nextStream⟩ ring).2 with nextStream := s.nextStream + 1 }) := by
  rw [createChannel?, there, Option.bind_some, Endpoint.line?, opened]
  dsimp only [Phase.line?]
  rcases e.channelCapacity? line with _ | capacity
  · rfl
  · dsimp only [Option.bind_eq_bind, Option.bind_some]
    rcases Ring.heap? capacity e.config.channels with _ | ring <;> rfl

theorem createChannel?_cases (s : Server) (k : Nat) : ((s.createChannel? k).map (·.2)).getD s = s ∨
    ∃ capacity channels, ((s.createChannel? k).map (·.2)).getD s =
      { (s.addChannel ⟨s.nextStream⟩ (.heap capacity channels)).2 with
        nextStream := s.nextStream + 1 } := by
  cases there : s.endpoints[k]? with
  | none => exact .inl (by rw [createChannel?, there]; rfl)
  | some e =>
    cases phase : e.phase with
    | closed owned =>
      exact .inl (by simp [createChannel?, there, Endpoint.line?, phase, Phase.line?])
    | opened line =>
      rw [createChannel?_of_opened there phase]
      cases made : (e.channelCapacity? line).bind (Ring.heap? · e.config.channels) with
      | none => exact .inl rfl
      | some ring =>
        obtain ⟨capacity, -, granted⟩ := Option.bind_eq_some_iff.mp made
        obtain ⟨-, rfl⟩ := Ring.heap?_eq_some.mp granted
        exact .inr ⟨_, _, rfl⟩

section Perform

variable (s : Server) (endpoint channel : Nat) (id : StreamId)

private theorem onChannel?_actOnChannel {α : Type} (act : Channel → α × Channel) :
    ((s.onChannel? channel act).map (·.2)).getD s = s.actOnChannel channel (act · |>.2) := by
  cases found : s.channels[channel]? <;> simp [onChannel?, actOnChannel, found]

private theorem map_onResult? {α : Type} (ok : α → Reply)
    (result : Option (Except EndpointError α × Server)) :
    (onResult? ok result).map (·.2) = result.map (·.2) := by
  cases result <;> rfl

private theorem onResult?_actOn {α : Type} (ok : α → Reply)
    (act : Site → Except EndpointError α × Site) :
    ((onResult? ok (s.onSite? endpoint act)).map (·.2)).getD s =
      s.actOn endpoint (act · |>.2) := by
  rw [map_onResult?, onSite?_actOn]

private theorem onResult?_tryOn {α : Type} (ok : α → Reply)
    (act : Site → Option (Except EndpointError α × Site)) :
    ((onResult? ok (s.trySite? endpoint act)).map (·.2)).getD s =
      s.actOn endpoint fun site => ((act site).map (·.2)).getD site := by
  rw [map_onResult?, trySite?_actOn]

-- The actions are given with their replies, so that the definition is unfolded at one operation.
-- Rewriting with it would make each of these lemmas wait for the equations of all the others.
theorem perform_setPlan (plan : Plan) : s.perform (.setPlan endpoint plan) =
    s.actOn endpoint fun site => { site with endpoint :=
      { site.endpoint with device := { site.endpoint.device with plan } } } :=
  onSite?_actOn s endpoint fun site => (Reply.nothing, { site with endpoint :=
    { site.endpoint with device := { site.endpoint.device with plan } } })

theorem perform_extendScript (outcomes : List Outcome) :
    s.perform (.extendScript endpoint outcomes) = s.actOn endpoint fun site =>
      { site with endpoint := { site.endpoint with device := { site.endpoint.device with
        script := site.endpoint.device.script ++ outcomes } } } :=
  onSite?_actOn s endpoint fun site => (Reply.nothing, { site with endpoint :=
    { site.endpoint with device := { site.endpoint.device with
      script := site.endpoint.device.script ++ outcomes } } })

theorem perform_grant (writes : Nat) : s.perform (.grant endpoint writes) =
    s.actOn endpoint fun site => (site.grantUpTo writes 0).2 :=
  onSite?_actOn s endpoint fun site =>
    (Reply.count (site.grantUpTo writes 0).1, (site.grantUpTo writes 0).2)

theorem perform_openStream : s.perform (.openStream endpoint) = s.actOn endpoint Site.opened :=
  onResult?_tryOn ..

theorem perform_closeStream : s.perform (.closeStream endpoint) =
    s.actOn endpoint fun site => site.closeStream.2 :=
  onResult?_actOn ..

theorem perform_unregister : s.perform (.unregister endpoint id) =
    s.actOn endpoint fun site => site.unregister id :=
  onSite?_actOn s endpoint fun site => (Reply.done, site.unregister id)

theorem perform_start : s.perform (.start endpoint id) =
    s.actOn endpoint fun site => site.started id :=
  onResult?_tryOn ..

theorem perform_stop : s.perform (.stop endpoint id) =
    s.actOn endpoint fun site => (site.stop id).2 :=
  onResult?_actOn ..

theorem perform_setVolume (volume : Sample) : s.perform (.setVolume endpoint id volume) =
    s.actOn endpoint fun site => (site.setVolume id volume).2 :=
  onResult?_actOn ..

theorem perform_disconnectAll : s.perform (.disconnectAll endpoint) =
    s.actOn endpoint Site.disconnectAll :=
  onSite?_actOn s endpoint fun site => (Reply.nothing, site.disconnectAll)

theorem perform_register : s.perform (.register endpoint channel) =
    match s.channels[channel]? with
    | none => s
    | some c => s.actOn endpoint fun site => (site.register channel c).2 := by
  change ((onResult? _ (s.register? endpoint channel)).map (·.2)).getD s = _
  rw [map_onResult?, register?]
  cases found : s.channels[channel]? with
  | none => rfl
  | some c => exact onSite?_actOn ..

theorem perform_write (samples : Array Sample) : s.perform (.write channel samples) =
    s.actOnChannel channel fun c => (c.write samples).2 :=
  onChannel?_actOnChannel s channel fun c =>
    (Reply.count (c.write samples).1, (c.write samples).2)

theorem perform_pop (block : Array Sample) : s.perform (.pop channel block) =
    s.actOnChannel channel fun c => (c.pop block).2.2 :=
  onChannel?_actOnChannel s channel fun c =>
    (Reply.popped (c.pop block).1 (c.pop block).2.1, (c.pop block).2.2)

theorem perform_retarget (value : Int) : s.perform (.retarget channel value) =
    s.actOnChannel channel fun c => (c.retarget? value).getD c := by
  cases found : s.channels[channel]? with
  | none => simp [perform, perform?, onChannel?, actOnChannel, found]
  | some c => cases moved : c.retarget? value <;>
      simp [perform, perform?, onChannel?, actOnChannel, found, moved]

theorem perform_setGain (volume : Sample) (bursts : UInt32) :
    s.perform (.setGain channel volume bursts) =
      s.actOnChannel channel (Channel.setVolume volume bursts) :=
  onChannel?_actOnChannel s channel fun c =>
    (Reply.gain (c.setVolume volume bursts).volume, c.setVolume volume bursts)

theorem perform_disconnect : s.perform (.disconnect channel) =
    s.actOnChannel channel Channel.disconnect :=
  onChannel?_actOnChannel s channel fun c => (Reply.nothing, c.disconnect)

theorem perform_fault (reason : String) : s.perform (.fault channel reason) =
    s.actOnChannel channel (Channel.fault reason) :=
  onChannel?_actOnChannel s channel fun c => (Reply.nothing, c.fault reason)

theorem perform_drainEvents : s.perform (.drainEvents channel) =
    s.actOnChannel channel fun c => c.drain.2 :=
  onChannel?_actOnChannel s channel fun c => (Reply.events c.drain.1, c.drain.2)

theorem perform_acquire (config : StreamConfig) (plan : Plan) :
    s.perform (.acquire config plan) = s.acquired config plan := by
  change ((onResult? _ (s.acquire? config plan)).map (·.2)).getD s = _
  rw [map_onResult?]
  rfl

theorem perform_createChannel (k : Nat) :
    s.perform (.createChannel k) = ((s.createChannel? k).map (·.2)).getD s := by
  change ((onResult? _ (s.createChannel? k)).map (·.2)).getD s = _
  rw [map_onResult?]

theorem perform_toggle_eq (s : Server) (id : StreamId) :
    s.perform (.toggle id) = ((s.toggle? id).map (·.2)).getD s := by
  change ((onResult? _ (s.toggle? id)).map (·.2)).getD s = _
  rw [map_onResult?]

theorem perform_toggle : s.perform (.toggle id) = s ∨
    ∃ key, s.perform (.toggle id) = s.actOn key (fun site => (site.stop id).2) ∨
      s.find? id = some key ∧ s.perform (.toggle id) = s.actOn key (fun site => site.started id) ∧
        ∀ site, s.site? key = some site → (site.start? id).map (·.1) = some (.ok ()) →
          (s.perform? (.toggle id)).map (·.1) = some (.state .running) := by
  rw [perform_toggle_eq]
  cases found : s.find? id with
  | none =>
    left
    rw [toggle?_of_unknown found]
    rfl
  | some key =>
    refine .inr ⟨key, ?_⟩
    cases running : s.isRunning key id with
    | true =>
      left
      rw [toggle?_of_running found running, map_toggled, onSite?_actOn]
    | false =>
      rw [toggle?_of_resting found running]
      refine .inr ⟨rfl, ?_, fun site there started => ?_⟩
      · rw [map_toggled, trySite?_actOn]
        rfl
      · change (onResult? _ (s.toggle? id)).map (·.1) = _
        obtain ⟨answered, starting, ok⟩ := Option.map_eq_some_iff.mp started
        rw [toggle?_of_resting found running, trySite?, there, Option.bind_some, starting]
        simp only [onResult?, toggled, Option.map_some, ok]
        rfl

theorem perform_setLevel (level : Sample) :
    s.find? id = none ∧ s.perform (.setLevel id level) = s ∨
      ∃ key, s.find? id = some key ∧ s.perform (.setLevel id level) =
        s.actOn key fun site => (site.setVolume id (Decibel.toLinear level)).2 := by
  have performed : s.perform (.setLevel id level) = (s.setLevel id level).2 := rfl
  rw [performed]
  cases found : s.find? id with
  | none => exact .inl ⟨rfl, by rw [setLevel_of_unknown found]⟩
  | some key =>
    refine .inr ⟨key, rfl, ?_⟩
    simp only [setLevel, found]
    cases there : s.site? key with
    | none => simp [onSite?, there, actOn_of_none there]
    | some site =>
      rw [actOn_of_site there, onSite?, there]
      cases known : site.find? id with
      | none => simp [Site.setVolume, known, putSite_self there]
      | some => simp [Site.setVolume, known]

end Perform

end SharedAudio.Server
