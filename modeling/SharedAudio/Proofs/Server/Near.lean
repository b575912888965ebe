import SharedAudio.Proofs.Endpoint.Lockstep
import SharedAudio.Proofs.Server.Outage
import SharedAudio.Proofs.Server.Past

namespace SharedAudio

inductive Operation.Uses : Operation → Nat → Prop
  | write (key : Nat) (samples : Array Sample) : Uses (.write key samples) key
  | pop (key : Nat) (block : Array Sample) : Uses (.pop key block) key
  | retarget (key : Nat) (threshold : Int) : Uses (.retarget key threshold) key
  | setGain (key : Nat) (volume : Sample) (bursts : UInt32) : Uses (.setGain key volume bursts) key
  | drainEvents (key : Nat) : Uses (.drainEvents key) key

namespace Server

variable {g : Tolerance} {s t : Server} {α β : Type}

def Blank (g : Tolerance) (k : Nat) : Prop :=
  g.output k #[] 0 #[] 0 ∧ ∀ count, g.references k count count

structure Near (g : Tolerance) (s t : Server) : Prop where
  options : t.options = s.options
  held : t.held = s.held
  handles : t.handles = s.handles
  nextStream : t.nextStream = s.nextStream
  log : t.log = s.log
  refused : t.refused = s.refused
  channels : g.channels s.channels t.channels
  endpoints : ∀ k : Nat, Option.Rel (Endpoint.Near g k) s.endpoints[k]? t.endpoints[k]?
  later : ∀ k, s.endpoints.size ≤ k → Blank g k

def Fit (g : Tolerance) (s : Server) : Prop := ∀ k site, s.site? k = some site → site.Fit g

def Same (g : Tolerance) (a b : α × Server) : Prop := b.1 = a.1 ∧ a.2.Near g b.2

theorem Same.map {first second : Option (α × Server)} (h : Option.Rel (Same g) first second)
    (f : α → β) : Option.Rel (Same g) (first.map fun r => (f r.1, r.2))
      (second.map fun r => (f r.1, r.2)) :=
  rel_map (fun _ _ same => ⟨congrArg f same.1, same.2⟩) h

theorem lasting_shaped : Lasting Endpoint.Shaped where
  fresh _ _ _ _ _ opened := by cases opened
  counted _ _ shaped := shaped
  opened site := site.calm_opened.endpoint.shaped
  started _ id shaped := Site.shaped_start shaped id
  worked _ _ work := work.steady Site.steady_shaped

theorem Fit.of_putSite {k : Nat} {u v : Site} (found : s.site? k = some u)
    (fit : (s.putSite k v).Fit g) : v.Fit g :=
  fit k v (site?_putSite (Array.getElem?_eq_some_iff.mp (endpoint_of_site? found).1).1)

namespace Near

theorem sizes (h : s.Near g t) : t.endpoints.size = s.endpoints.size := by
  have ends (k : Nat) : s.endpoints[k]? = none ↔ t.endpoints[k]? = none := by
    have there := h.endpoints k
    generalize s.endpoints[k]? = e, t.endpoints[k]? = f at there
    cases there <;> simp
  simp only [Array.getElem?_eq_none_iff] at ends
  exact Nat.le_antisymm ((ends _).mp (Nat.le_refl _)) ((ends _).mpr (Nat.le_refl _))

theorem endpoint (h : s.Near g t) (k : Nat) : s.endpoints[k]? = none ∧ t.endpoints[k]? = none ∨
    ∃ e f, s.endpoints[k]? = some e ∧ t.endpoints[k]? = some f ∧ e.Near g k f := by
  have there := h.endpoints k
  generalize s.endpoints[k]? = e, t.endpoints[k]? = f at there
  cases there with
  | none => exact .inl ⟨rfl, rfl⟩
  | some near => exact .inr ⟨_, _, rfl, rfl, near⟩

theorem sites (h : s.Near g t) (k : Nat) : s.site? k = none ∧ t.site? k = none ∨
    ∃ u v, s.site? k = some u ∧ t.site? k = some v ∧ u.Near g k v := by
  rcases h.endpoint k with ⟨here, there⟩ | ⟨e, f, here, there, near⟩
  · exact .inl ⟨by rw [site?, here]; rfl, by rw [site?, there]; rfl⟩
  · exact .inr ⟨_, _, site?_of_endpoint here, site?_of_endpoint there, near, h.channels, h.log⟩

theorem putSite (h : s.Near g t) (k : Nat) {u v : Site} (near : u.Near g k v) :
    (s.putSite k u).Near g (t.putSite k v) where
  options := h.options
  held := h.held
  handles := h.handles
  nextStream := h.nextStream
  log := near.log
  refused := h.refused
  channels := near.channels
  endpoints l := by
    rw [endpoints_putSite, endpoints_putSite]
    split
    next same =>
      subst same
      exact rel_map (fun _ _ _ => near.endpoint) (h.endpoints k)
    next => exact h.endpoints l
  later l := by
    rw [size_endpoints_putSite]
    exact h.later l

theorem onSite? (h : s.Near g t) (k : Nat) {act other : Site → α × Site}
    (near : ∀ u v, s.site? k = some u → u.Near g k v → Site.Same g k (act u) (other v)) :
    Option.Rel (Same g) (s.onSite? k act) (t.onSite? k other) := by
  rw [Server.onSite?, Server.onSite?]
  rcases h.sites k with ⟨here, there⟩ | ⟨u, v, here, there, before⟩
  · rw [here, there]
    exact .none
  · obtain ⟨same, after⟩ := near u v here before
    rw [here, there]
    exact .some ⟨same, h.putSite k after⟩

theorem trySite? (h : s.Near g t) (k : Nat) {act other : Site → Option (α × Site)}
    (near : ∀ u v, s.site? k = some u → u.Near g k v →
      Option.Rel (Site.Same g k) (act u) (other v)) :
    Option.Rel (Same g) (s.trySite? k act) (t.trySite? k other) := by
  rw [Server.trySite?, Server.trySite?]
  rcases h.sites k with ⟨here, there⟩ | ⟨u, v, here, there, before⟩
  · rw [here, there]
    exact .none
  · rw [here, there]
    exact rel_map (fun _ _ same => ⟨same.1, h.putSite k same.2⟩) (near u v here before)

theorem actOn (h : s.Near g t) (k : Nat) {act : Site → Site}
    (near : ∀ u v, u.Near g k v → (act u).Near g k (act v)) :
    (s.actOn k act).Near g (t.actOn k act) := by
  rcases h.sites k with ⟨here, there⟩ | ⟨u, v, here, there, before⟩
  · rwa [actOn_of_none here, actOn_of_none there]
  · rw [actOn_of_site here, actOn_of_site there]
    exact h.putSite k (near u v before)

theorem onChannel? (h : s.Near g t) (key : Nat) {act other : Channel → α × Channel}
    (near : ∀ c d, g.channel key c d →
      (other d).1 = (act c).1 ∧ g.channel key (act c).2 (other d).2) :
    Option.Rel (Same g) (s.onChannel? key act) (t.onChannel? key other) := by
  rw [Server.onChannel?, Server.onChannel?]
  rcases Tolerance.channels_cases h.channels key with ⟨here, there⟩ | ⟨c, d, here, there, before⟩
  · rw [here, there]
    exact .none
  · obtain ⟨same, after⟩ := near c d before
    rw [here, there]
    exact .some ⟨same, { h with channels := Tolerance.channels_set h.channels after }⟩

theorem actOnChannel (h : s.Near g t) (key : Nat) {act other : Channel → Channel}
    (near : ∀ c d, g.channel key c d → g.channel key (act c) (other d)) :
    (s.actOnChannel key act).Near g (t.actOnChannel key other) := by
  rcases Tolerance.channels_cases h.channels key with ⟨here, there⟩ | ⟨c, d, here, there, before⟩
  · rwa [actOnChannel_of_none here, actOnChannel_of_none there]
  · rw [actOnChannel_of_channel here, actOnChannel_of_channel there]
    exact { h with channels := Tolerance.channels_set h.channels (near c d before) }

theorem references (h : s.Near g t) (k : Nat) :
    g.references k (s.references k) (t.references k) := by
  rw [Server.references, Server.references]
  rcases h.endpoint k with ⟨here, there⟩ | ⟨e, f, here, there, near⟩
  · rw [here, there]
    exact (h.later k (Array.getElem?_eq_none_iff.mp here)).2 0
  · rw [here, there]
    exact near.references

theorem setReferences (h : s.Near g t) (k : Nat) {x y : UInt64} (near : g.references k x y) :
    (s.setReferences k x).Near g (t.setReferences k y) := by
  refine { h with endpoints := fun l => ?_, later := fun l => ?_ }
  · rw [Server.setReferences, Server.setReferences, Array.getElem?_modify, Array.getElem?_modify]
    split
    next same =>
      subst same
      exact rel_map (fun _ _ before => { before with references := near }) (h.endpoints k)
    next => exact h.endpoints l
  · rw [size_endpoints_setReferences]
    exact h.later l

theorem pushEndpoint (h : s.Near g t) {e f : Endpoint} (near : e.Near g s.endpoints.size f) :
    ({ s with endpoints := s.endpoints.push e } : Server).Near g
      { t with endpoints := t.endpoints.push f } := by
  refine { h with endpoints := fun k => ?_, later := fun k beyond => ?_ }
  · rw [Array.getElem?_push, Array.getElem?_push, h.sizes]
    split
    next same =>
      subst same
      exact .some near
    next => exact h.endpoints k
  · rw [Array.size_push] at beyond
    exact h.later k (by omega)

theorem addChannel (lawful : g.Lawful) (h : s.Near g t) (id : StreamId) (ring : Ring) :
    (t.addChannel id ring).1 = (s.addChannel id ring).1 ∧
      (s.addChannel id ring).2.Near g (t.addChannel id ring).2 :=
  ⟨Tolerance.size_channels h.channels,
    { h with channels := Tolerance.channels_push h.channels (lawful.newborn _ id ring) }⟩

theorem addHandle (h : s.Near g t) (k : Nat) :
    Same g (s.addHandle k) (t.addHandle k) :=
  ⟨congrArg Array.size h.handles, { h with handles := congrArg (·.push (some k)) h.handles }⟩

theorem find? (lawful : g.Lawful) (h : s.Near g t) (id : StreamId) : t.find? id = s.find? id := by
  rw [Server.find?, Server.find?, h.held]
  congr 1
  funext k
  rcases h.sites k with ⟨here, there⟩ | ⟨u, v, here, there, near⟩
  · rw [here, there]
  · rw [here, there, Option.any_some, Option.any_some, near.ids lawful]

theorem isRunning (lawful : g.Lawful) (h : s.Near g t) (k : Nat) (id : StreamId) :
    t.isRunning k id = s.isRunning k id := by
  rw [Server.isRunning, Server.isRunning]
  rcases h.sites k with ⟨here, there⟩ | ⟨u, v, here, there, near⟩
  · rw [here, there]
  · have flags : v.registered.map (fun c => c.id == id && c.isRunning) =
        u.registered.map fun c => c.id == id && c.isRunning :=
      near.map_registered fun _ c d near => by
        rw [lawful.id near, Site.Near.isRunning lawful near]
    rw [here, there, Option.any_some, Option.any_some]
    simpa [List.any_map, Function.comp_def] using congrArg (List.any · (· == true)) flags

theorem sharable? (h : s.Near g t) (config : StreamConfig) :
    t.sharable? config = s.sharable? config := by
  rw [Server.sharable?, Server.sharable?, h.held]
  congr 1
  funext k
  rcases h.endpoint k with ⟨here, there⟩ | ⟨e, f, here, there, near⟩
  · rw [here, there]
  · rw [here, there, Option.any_some, Option.any_some, Endpoint.usable, Endpoint.usable,
      near.isOpen, near.health, near.config]

theorem unlist (h : s.Near g t) (k : Nat) : (s.unlist k).Near g (t.unlist k) :=
  { h with held := congrArg (List.filter (· != k)) h.held }

theorem letGo (h : s.Near g t) (handle : Nat) : (s.letGo handle).Near g (t.letGo handle) :=
  { h with handles := congrArg (·.setIfInBounds handle none) h.handles }

theorem unreference (lawful : g.Lawful) (h : s.Near g t) (k : Nat)
    (exact : ∀ x y, g.references k x y ↔ y = x) : (s.unreference k).Near g (t.unreference k) := by
  have counted (count : UInt64) : (s.setReferences k count).Near g (t.setReferences k count) :=
    h.setReferences k ((exact count count).mpr rfl)
  have retired (count : UInt64) : ((s.setReferences k count).retire k).Near g
      ((t.setReferences k count).retire k) :=
    ((counted count).unlist k).actOn k fun u v near => (near.closeStream lawful).2.announce _
  rw [Server.unreference, Server.unreference, (exact _ _).mp (h.references k)]
  generalize (if s.references k = 0 then 0 else s.references k - 1) = count
  split
  · exact retired count
  · exact counted count

theorem release? (lawful : g.Lawful) (h : s.Near g t) (handle : Nat)
    (exact : ∀ k, s.handles[handle]? = some (some k) → ∀ x y, g.references k x y ↔ y = x) :
    Option.Rel (Near g) (s.release? handle) (t.release? handle) := by
  have same : t.handles[handle]? = s.handles[handle]? := by rw [h.handles]
  rw [Server.release?, Server.release?, same]
  split
  next k held => exact .some ((h.letGo handle).unreference lawful k (exact k held))
  next => exact .none

theorem openStream?_elsewhere (e : Endpoint) (all others : Array Channel) (log other : Log) :
    (Site.mk e others other).openStream?.map (fun r => (r.1, r.2.endpoint)) =
      (Site.mk e all log).openStream?.map fun r => (r.1, r.2.endpoint) := by
  simp only [Site.openStream?]
  split
  · rfl
  · rfl
  · rcases e.device.start e.config with ⟨error | params, device⟩
    · rfl
    · dsimp only
      cases e.objection? params with
      | some reason => rfl
      | none =>
        rcases Word.mul? e.burstsPerBuffer params.burst with _ | frames
        · rfl
        · rcases Mixer.new? e.config.channels params.burst with _ | mixer
          · rfl
          · simp [Site.endpoint_announce]

theorem fresh (lawful : g.Lawful) {k : Nat} (blank : Blank g k) (config : StreamConfig)
    (options : Options) (number : Nat) (plan : Plan) :
    Endpoint.Near g k { config, options, device := { number, plan } }
      { config, options, device := { number, plan } } where
  config := rfl
  options := rfl
  number := rfl
  plan := rfl
  script := rfl
  output := blank.1
  registered := rfl
  references := blank.2 0
  phase := .closed true
  health := rfl
  lastExit := rfl
  bursts := rfl
  underflows := lawful.none

theorem newDevice (h : s.Near g t) (plan : Plan) : t.newDevice plan = s.newDevice plan := by
  rw [Server.newDevice, Server.newDevice, deviceCount, deviceCount, h.sizes, h.refused]

theorem acquire? (lawful : g.Lawful) (h : s.Near g t) (config : StreamConfig) (plan : Plan) :
    Option.Rel (Same g) (s.acquire? config plan) (t.acquire? config plan) := by
  rw [Server.acquire?, Server.acquire?, h.sharable?]
  cases s.sharable? config with
  | some k =>
    have counted := h.setReferences k (lawful.counted (h.references k))
    obtain ⟨same, near⟩ := counted.addHandle k
    exact .some ⟨congrArg Except.ok same, near⟩
  | none =>
    obtain ⟨e, new⟩ : ∃ e : Endpoint,
        e = { config, options := s.options, device := s.newDevice plan } := ⟨_, rfl⟩
    have blank := h.later s.endpoints.size (Nat.le_refl _)
    have before : Site.Near g s.endpoints.size ⟨e, s.channels, s.log⟩ ⟨e, t.channels, t.log⟩ :=
      ⟨new ▸ fresh lawful blank config s.options s.deviceCount plan, h.channels, h.log⟩
    have opening := before.openStream? lawful
    have elsewhere := openStream?_elsewhere e s.channels t.channels s.log t.log
    simp only [h.newDevice, h.options, ← new]
    generalize (Site.mk e s.channels s.log).openStream? = first,
      (Site.mk e t.channels t.log).openStream? = second at opening elsewhere ⊢
    cases opening with
    | none => exact .none
    | @some first second opening =>
    obtain ⟨answer, u⟩ := first
    obtain ⟨other, v⟩ := second
    obtain ⟨same, after⟩ := opening
    cases same
    have endpoint : v.endpoint = u.endpoint := congrArg Prod.snd (Option.some.inj elsewhere)
    cases answer with
    | error error =>
      refine .some ⟨rfl, { h with options := rfl, log := after.log, refused := ?_ }⟩
      dsimp only
      rw [endpoint, h.refused]
    | ok =>
      have counted : Endpoint.Near g s.endpoints.size { u.endpoint with references := 1 }
          { v.endpoint with references := 1 } := { after.endpoint with references := blank.2 1 }
      have listed : Server.Near g
          { s with
            endpoints := s.endpoints.push { u.endpoint with references := 1 }
            held := s.held ++ [s.endpoints.size]
            log := u.log }
          { t with
            options := s.options
            endpoints := t.endpoints.push { v.endpoint with references := 1 }
            held := t.held ++ [t.endpoints.size]
            log := v.log } :=
        { h.pushEndpoint counted with
          options := rfl
          held := by rw [h.held, h.sizes]
          log := after.log }
      obtain ⟨same, near⟩ := listed.addHandle s.endpoints.size
      simp only [Option.map_some]
      rw [h.sizes] at near ⊢
      exact .some ⟨congrArg Except.ok same, near⟩

theorem createChannel? (lawful : g.Lawful) (h : s.Near g t) (k : Nat) :
    Option.Rel (Same g) (s.createChannel? k) (t.createChannel? k) := by
  rw [Server.createChannel?, Server.createChannel?]
  rcases h.endpoint k with ⟨here, there⟩ | ⟨e, f, here, there, near⟩
  · rw [here, there]
    exact .none
  rw [here, there, Option.bind_some, Option.bind_some]
  rcases near.phases with ⟨owned, shut, shut'⟩ | ⟨params, buffer, l, m, opened, opened', -⟩
  · simp only [Endpoint.line?, shut, shut', Phase.line?]
    exact .some ⟨rfl, h⟩
  · have wanted :
        f.channelCapacity? ⟨params, buffer, m⟩ = e.channelCapacity? ⟨params, buffer, l⟩ := by
      simp only [Endpoint.channelCapacity?, near.config, near.options]
    simp only [Endpoint.line?, opened, opened', Phase.line?, wanted, near.config, h.nextStream]
    cases e.channelCapacity? ⟨params, buffer, l⟩ with
    | none => exact .none
    | some capacity =>
      simp only [Option.bind_eq_bind, Option.bind_some]
      cases Ring.heap? capacity e.config.channels with
      | none => exact .none
      | some ring =>
        obtain ⟨same, added⟩ := h.addChannel lawful ⟨s.nextStream⟩ ring
        exact .some ⟨congrArg Except.ok same,
          { added with nextStream := congrArg (· + 1) h.nextStream }⟩

theorem register? (lawful : g.Lawful) (h : s.Near g t) (k key : Nat) :
    Option.Rel (Same g) (s.register? k key) (t.register? k key) := by
  rw [Server.register?, Server.register?]
  rcases Tolerance.channels_cases h.channels key with ⟨here, there⟩ | ⟨c, d, here, there, near⟩
  · rw [here, there]
    exact .none
  · rw [here, there]
    exact h.onSite? k fun u v _ before => before.register lawful key near

theorem toggled {first second : Option (Except EndpointError Unit × Server)}
    (same : Option.Rel (Same g) first second) (state : ChannelState) :
    Option.Rel (Same g) (Server.toggled state first) (Server.toggled state second) :=
  rel_map (fun _ _ same => ⟨congrArg (Except.map fun _ => state) same.1, same.2⟩) same

theorem starting? (lawful : g.Lawful) (h : s.Near g t) (shaped : s.Everywhere Endpoint.Shaped)
    (k : Nat) (id : StreamId) (fit : (s.actOn k fun site => site.started id).Fit g) :
    Option.Rel (Same g) (s.trySite? k (·.start? id)) (t.trySite? k (·.start? id)) := by
  refine h.trySite? k fun u v found near => ?_
  rw [actOn_of_site found] at fit
  exact near.start? lawful (shaped k _ (endpoint_of_site? found).1) id (Fit.of_putSite found fit)

theorem toggle? (lawful : g.Lawful) (h : s.Near g t) (shaped : s.Everywhere Endpoint.Shaped)
    (id : StreamId) (fit : (s.perform (.toggle id)).Fit g) :
    Option.Rel (Same g) (s.toggle? id) (t.toggle? id) := by
  have same := h.find? lawful id
  cases found : s.find? id with
  | none =>
    rw [toggle?_of_unknown found, toggle?_of_unknown (same.trans found)]
    exact .some ⟨rfl, h⟩
  | some k =>
    have alike := h.isRunning lawful k id
    cases running : s.isRunning k id with
    | true =>
      rw [toggle?_of_running found running,
        toggle?_of_running (same.trans found) (alike.trans running)]
      exact toggled (h.onSite? k fun u v _ near => near.stop lawful id) .stopped
    | false =>
      rw [perform_toggle_eq, toggle?_of_resting found running, map_toggled, trySite?_actOn] at fit
      rw [toggle?_of_resting found running,
        toggle?_of_resting (same.trans found) (alike.trans running)]
      exact toggled (h.starting? lawful shaped k id fit) .running

theorem setLevel (lawful : g.Lawful) (h : s.Near g t) (id : StreamId) (level other : Sample)
    (aims : ∀ k u key bursts c d, s.find? id = some k → s.site? k = some u →
      u.find? id = some key → g.channel key c d →
        g.channel key (c.setVolume (Decibel.toLinear level) bursts)
          (d.setVolume (Decibel.toLinear other) bursts)) :
    Same g (s.setLevel id level) (t.setLevel id other) := by
  rw [Server.setLevel, Server.setLevel, h.find? lawful]
  cases listed : s.find? id with
  | none => exact ⟨rfl, h⟩
  | some k =>
    have same := h.onSite? k fun u v found near =>
      near.setVolume lawful id (Decibel.toLinear level) (Decibel.toLinear other)
        fun key bursts c d => aims k u key bursts c d listed found
    dsimp only
    generalize s.onSite? k _ = first, t.onSite? k _ = second at same ⊢
    cases same with
    | none => exact ⟨rfl, h⟩
    | @some first second same =>
      obtain ⟨answer, s⟩ := first
      obtain ⟨other, t⟩ := second
      obtain ⟨rfl, near⟩ := same
      cases other with
      | error => exact ⟨rfl, h⟩
      | ok => exact ⟨rfl, near⟩

theorem updateDevice? (h : s.Near g t) (k : Nat) {change : Device → Device}
    (near : ∀ e f : Endpoint, e.Near g k f →
      { e with device := change e.device }.Near g k { f with device := change f.device }) :
    Option.Rel (Same g) (s.updateDevice? k change) (t.updateDevice? k change) :=
  h.onSite? k fun _ _ _ before => ⟨rfl, near _ _ before.endpoint, before.channels, before.log⟩

theorem onEqual? (h : s.Near g t) (key : Nat) (apart : ∀ c d, g.channel key c d ↔ d = c)
    (act : Channel → α × Channel) :
    Option.Rel (Same g) (s.onChannel? key act) (t.onChannel? key act) := by
  refine h.onChannel? key fun c d near => ?_
  rw [(apart c d).mp near]
  exact ⟨rfl, (apart _ _).mpr rfl⟩

theorem perform? (lawful : g.Lawful) (h : s.Near g t) (shaped : s.Everywhere Endpoint.Shaped)
    (op : Operation) (fit : s.Fit g) (after : (s.perform op).Fit g)
    (apart : ∀ key, op.Uses key → ∀ c d, g.channel key c d ↔ d = c)
    (exact : ∀ handle k, op = .release handle → s.handles[handle]? = some (some k) →
      ∀ x y, g.references k x y ↔ y = x) :
    Option.Rel (Same g) (s.perform? op) (t.perform? op) := by
  have entered (key : Nat) (e : StreamEvent) :
      Option.Rel (Same g) (s.onChannel? key fun c => (Reply.nothing, c.enter e))
        (t.onChannel? key fun c => (Reply.nothing, c.enter e)) :=
    h.onChannel? key fun c d near => ⟨rfl, lawful.enter e near⟩
  cases op <;> simp only [Server.perform?]
  case acquire config plan =>
    exact Same.map (h.acquire? lawful config plan) (Reply.ofResult _)
  case release handle =>
    exact rel_map (fun _ _ near => ⟨rfl, near⟩) (h.release? lawful handle (exact handle · rfl))
  case addEndpoint config options plan =>
    have near := h.pushEndpoint
      (fresh lawful (h.later _ (Nat.le_refl _)) config options s.deviceCount plan)
    simp only [Server.addEndpoint, h.newDevice, h.sizes]
    exact .some ⟨rfl, near⟩
  case setPlan k plan =>
    exact h.updateDevice? k fun e f near => { near with plan := rfl }
  case extendScript k outcomes =>
    exact h.updateDevice? k fun e f near =>
      { near with script := congrArg (· ++ outcomes) near.script }
  case grant k writes =>
    refine h.onSite? k fun u v found near => ?_
    obtain ⟨same, near⟩ := near.grantUpTo lawful (shaped k _ (endpoint_of_site? found).1)
      (fit k u found) writes 0
    exact ⟨congrArg Reply.count same, near⟩
  case openStream k => exact Same.map (h.trySite? k fun u v _ near => near.openStream? lawful) _
  case closeStream k => exact Same.map (h.onSite? k fun u v _ near => near.closeStream lawful) _
  case createChannel k => exact Same.map (h.createChannel? lawful k) _
  case addChannel id ring =>
    obtain ⟨same, near⟩ := h.addChannel lawful id ring
    exact .some ⟨congrArg Reply.channel same, near⟩
  case register k key => exact Same.map (h.register? lawful k key) _
  case unregister k id => exact h.onSite? k fun u v _ near => ⟨rfl, near.unregister lawful id⟩
  case start k id =>
    rw [perform_start] at after
    exact Same.map (h.starting? lawful shaped k id after) _
  case stop k id => exact Same.map (h.onSite? k fun u v _ near => near.stop lawful id) _
  case setVolume k id volume =>
    exact Same.map (h.onSite? k fun u v _ near => near.setVolume lawful id volume volume
      fun _ bursts _ _ _ => lawful.aim volume bursts) _
  case disconnectAll k => exact h.onSite? k fun u v _ near => ⟨rfl, near.enterAll lawful _⟩
  case write key samples => exact h.onEqual? key (apart key (.write ..)) _
  case pop key block => exact h.onEqual? key (apart key (.pop ..)) _
  case retarget key value => exact h.onEqual? key (apart key (.retarget ..)) _
  case setGain key volume bursts => exact h.onEqual? key (apart key (.setGain ..)) _
  case disconnect key => exact entered key .disconnected
  case fault key reason => exact entered key (.faulted reason)
  case drainEvents key => exact h.onEqual? key (apart key (.drainEvents key)) _
  case toggle id => exact Same.map (h.toggle? lawful shaped id after) _
  case setLevel id level =>
    obtain ⟨same, near⟩ := h.setLevel lawful id level level fun _ _ _ bursts _ _ _ _ _ =>
      lawful.aim _ bursts
    exact .some ⟨congrArg Reply.flag same, near⟩
  case drainLog =>
    simp only [h.log]
    exact .some ⟨rfl, { h with log := rfl }⟩

theorem of_same {op other : Operation} (h : s.Near g t)
    (same : Option.Rel (Same g) (s.perform? op) (t.perform? other)) :
    t.reply? other = s.reply? op ∧ (s.perform op).Near g (t.perform other) := by
  rw [reply?, reply?, Server.perform, Server.perform]
  generalize s.perform? op = first, t.perform? other = second at same
  cases same with
  | none => exact ⟨rfl, h⟩
  | some same => exact ⟨congrArg some same.1, same.2⟩

end Near

end Server

end SharedAudio
